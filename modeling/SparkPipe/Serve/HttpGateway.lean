import Mathlib.Algebra.BigOperators.Group.List.Basic

/-!
# The frames of the event stream

The gateway writes one frame for every service event: an event line, a data line with a JSON object,
and a blank line. The last field of the object is the text of a token, which is whatever bytes the
model has produced; it is escaped byte by byte. However the bytes are chosen, the frame is one frame,
and the text can be read back.
-/

namespace SparkPipe.HttpGateway

open List

/-- The bytes of an ASCII text. -/
def ascii (text : String) : List UInt8 := text.toList.map fun c => c.toNat.toUInt8

def decimal (n : Nat) : List UInt8 := (Nat.toDigits 10 n).map fun c => c.toNat.toUInt8

def eventKindToken : UInt32 := 3
def eventKindRequestCompleted : UInt32 := 4
def eventKindRequestCancelled : UInt32 := 5
def eventKindError : UInt32 := 6

structure ServiceEvent where
  kind : UInt32
  status : UInt32
  clientId : UInt64
  clientRequestId : UInt64
  servingRequestId : UInt64
  sequenceId : UInt64
  tokenId : UInt32
  tokenIndex : UInt32

namespace ServiceEvent

variable (event : ServiceEvent)

def isTerminal : Bool :=
  event.kind = eventKindRequestCompleted ∨ event.kind = eventKindRequestCancelled ∨
    event.kind = eventKindError

def sseEventName : String :=
  if event.isTerminal then "done" else if event.kind = eventKindToken then "token" else "event"

/-- The fields before the text, in the order in which they are written. -/
def numbers : List (String × Nat) :=
  [("kind", event.kind.toNat), ("status", event.status.toNat), ("client_id", event.clientId.toNat),
    ("client_request_id", event.clientRequestId.toNat),
    ("serving_request_id", event.servingRequestId.toNat),
    ("sequence_id", event.sequenceId.toNat), ("token_id", event.tokenId.toNat),
    ("token_index", event.tokenIndex.toNat)]

end ServiceEvent

/-- A field with its comma. -/
def numberField (field : String × Nat) : List UInt8 :=
  ascii "\"" ++ ascii field.1 ++ ascii "\":" ++ decimal field.2 ++ ascii ","

def quote : UInt8 := 34
def backslash : UInt8 := 92
def lineFeed : UInt8 := 10
def carriageReturn : UInt8 := 13

def hexDigit (n : UInt8) : UInt8 := if n < 10 then 48 + n else 87 + n

/-- The escape of a byte; that of a control byte has four hexadecimal digits. -/
def escapeByte (byte : UInt8) : List UInt8 :=
  if byte = quote then ascii "\\\""
  else if byte = backslash then ascii "\\\\"
  else if byte = lineFeed then ascii "\\n"
  else if byte = carriageReturn then ascii "\\r"
  else if byte = 9 then ascii "\\t"
  else if byte < 0x20 then ascii "\\u00" ++ [hexDigit (byte / 16), hexDigit (byte % 16)]
  else [byte]

variable (event : ServiceEvent)

/-- The frame up to the opening quote of the text. -/
def frameHead : List UInt8 :=
  ascii "event: " ++ ascii event.sseEventName ++ ascii "\n" ++
    (ascii "data: \x7b" ++ event.numbers.flatMap numberField ++ ascii "\"text\":")

variable (tokenText : List UInt8)

def buildServiceEventFrame : List UInt8 :=
  tokenText.foldl (fun frame byte => frame ++ escapeByte byte) (frameHead event ++ ascii "\"") ++
    ascii "\"\x7d\n\n"

/-! ### Reading a frame -/

/-- The bytes of a JSON string up to its first unescaped quote, and those after it. -/
def splitString : List UInt8 → Option (List UInt8 × List UInt8)
  | [] => none
  | byte :: rest =>
    if byte = quote then some ([], rest)
    else if byte = backslash then
      match rest with
      | [] => none
      | escaped :: rest => (splitString rest).map fun r => (byte :: escaped :: r.1, r.2)
    else (splitString rest).map fun r => (byte :: r.1, r.2)

def hexValue (digit : UInt8) : Option Nat :=
  if 48 ≤ digit ∧ digit ≤ 57 then some (digit.toNat - 48)
  else if 97 ≤ digit ∧ digit ≤ 102 then some (digit.toNat - 87)
  else if 65 ≤ digit ∧ digit ≤ 70 then some (digit.toNat - 55)
  else none

/-- The escapes of one letter. -/
def unescapeLetter (letter : UInt8) : Option UInt8 :=
  (ascii "\"\\/bfnrt").zip [34, 92, 47, 8, 12, 10, 13, 9] |>.lookup letter

/-- The byte that four hexadecimal digits stand for. -/
def unescapeHex (a b c d : UInt8) : Option UInt8 := do
  let value := ((← hexValue a) * 16 + (← hexValue b)) * 256 + (← hexValue c) * 16 + (← hexValue d)
  if value < 128 then return value.toUInt8 else none

/-- The bytes that a JSON string stands for, unless an escape stands for no single byte. -/
def unescape : List UInt8 → Option (List UInt8)
  | [] => some []
  | byte :: rest =>
    if byte ≠ backslash then (unescape rest).map (byte :: ·)
    else match rest with
      | [] => none
      | letter :: rest =>
        if letter ≠ 117 then (unescapeLetter letter).bind fun byte =>
          (unescape rest).map (byte :: ·)
        else match rest with
          | a :: b :: c :: d :: rest =>
            (unescapeHex a b c d).bind fun byte => (unescape rest).map (byte :: ·)
          | _ => none

/-! ### Escapes -/

def IsLine (line : List UInt8) : Prop := ∀ byte ∈ line, byte ≠ lineFeed ∧ byte ≠ carriageReturn

instance (line : List UInt8) : Decidable (IsLine line) := List.decidableBAll _ line

variable {byte : UInt8} {rest text : List UInt8}

theorem digits_of_control (h : byte < 0x20) :
    let digits := [hexDigit (byte / 16), hexDigit (byte % 16)]
    IsLine digits ∧ quote ∉ digits ∧ backslash ∉ digits ∧
      digits.map hexValue = [some (byte.toNat / 16), some (byte.toNat % 16)] := by
  have hdigits : ∀ n < 32,
      let digits := [hexDigit (UInt8.ofNat n / 16), hexDigit (UInt8.ofNat n % 16)]
      IsLine digits ∧ quote ∉ digits ∧ backslash ∉ digits ∧
        digits.map hexValue = [some (n / 16), some (n % 16)] := by decide
  have hbyte := hdigits byte.toNat (UInt8.lt_iff_toNat_lt.mp h)
  rwa [UInt8.ofNat_toNat] at hbyte

theorem isLine_append {l l' : List UInt8} (h : IsLine l) (h' : IsLine l') : IsLine (l ++ l') :=
  forall_mem_append.mpr ⟨h, h'⟩

theorem isLine_escapeByte (byte : UInt8) : IsLine (escapeByte byte) := by
  unfold escapeByte
  split_ifs with h1 h2 h3 h4 h5 h6
  any_goals decide
  · exact isLine_append (by decide) (digits_of_control h6).1
  · exact forall_mem_singleton.mpr ⟨h3, h4⟩

theorem splitString_cons (hquote : byte ≠ quote) (hbackslash : byte ≠ backslash) :
    splitString (byte :: rest) = (splitString rest).map fun r => (byte :: r.1, r.2) := by
  rw [splitString.eq_def]
  dsimp only
  rw [if_neg hquote, if_neg hbackslash]

theorem splitString_escapeByte (byte : UInt8) (rest : List UInt8) :
    splitString (escapeByte byte ++ rest) =
      (splitString rest).map fun r => (escapeByte byte ++ r.1, r.2) := by
  unfold escapeByte
  split_ifs with h1 h2 h3 h4 h5 h6
  any_goals rfl
  · obtain ⟨-, hquote, hbackslash, -⟩ := digits_of_control h6
    rw [mem_pair, not_or] at hquote hbackslash
    show (splitString (48 :: 48 :: hexDigit _ :: hexDigit _ :: rest)).map _ = _
    rw [splitString_cons (by decide) (by decide), splitString_cons (by decide) (by decide),
      splitString_cons (Ne.symm hquote.1) (Ne.symm hbackslash.1),
      splitString_cons (Ne.symm hquote.2) (Ne.symm hbackslash.2)]
    simp only [Option.map_map]
    rfl
  · exact splitString_cons h1 h2

theorem unescape_escapeByte (byte : UInt8) (rest : List UInt8) :
    unescape (escapeByte byte ++ rest) = (unescape rest).map (byte :: ·) := by
  unfold escapeByte
  split_ifs with h1 h2 h3 h4 h5 h6
  any_goals
    rw [unescape.eq_def, ‹byte = _›]
    rfl
  · obtain ⟨-, -, -, hvalue⟩ := digits_of_control h6
    obtain ⟨hhigh, hlow⟩ : hexValue (hexDigit (byte / 16)) = some (byte.toNat / 16) ∧
        hexValue (hexDigit (byte % 16)) = some (byte.toNat % 16) := by simpa using hvalue
    have hhex : unescapeHex 48 48 (hexDigit (byte / 16)) (hexDigit (byte % 16)) =
        if 0 * 256 + byte.toNat / 16 * 16 + byte.toNat % 16 < 128 then
          some (Nat.toUInt8 (0 * 256 + byte.toNat / 16 * 16 + byte.toNat % 16)) else none := by
      rw [unescapeHex, hhigh, hlow]
      rfl
    have hsmall : byte.toNat < 32 := UInt8.lt_iff_toNat_lt.mp h6
    rw [Nat.zero_add, Nat.div_add_mod', if_pos (by omega)] at hhex
    have hbyte : byte.toNat.toUInt8 = byte := UInt8.ofNat_toNat
    rw [unescape.eq_def]
    show (unescapeHex 48 48 _ _).bind _ = _
    rw [hhex, hbyte]
    rfl
  · rw [unescape.eq_def]
    exact if_pos h2

/-- The escapes of a text. -/
def escape : List UInt8 := tokenText.flatMap escapeByte

theorem isLine_escape : IsLine (escape tokenText) := by
  intro byte hbyte
  obtain ⟨source, -, hmem⟩ := mem_flatMap.mp hbyte
  exact isLine_escapeByte source byte hmem

theorem splitString_escape (tokenText rest : List UInt8) :
    splitString (escape tokenText ++ quote :: rest) = some (escape tokenText, rest) := by
  induction tokenText with
  | nil =>
    rw [splitString.eq_def]
    rfl
  | cons _ _ ih =>
    rw [escape, flatMap_cons, append_assoc, splitString_escapeByte]
    exact congrArg _ ih

theorem unescape_escape : unescape (escape tokenText) = some tokenText := by
  induction tokenText with
  | nil => rfl
  | cons _ _ ih =>
    rw [escape, flatMap_cons, unescape_escapeByte]
    exact congrArg _ ih

theorem buildServiceEventFrame_eq : buildServiceEventFrame event tokenText =
      frameHead event ++ quote :: (escape tokenText ++ quote :: ascii "\x7d\n\n") := by
  rw [buildServiceEventFrame, foldl_append_eq_append, append_assoc, append_assoc]
  rfl

/-! ### Fields -/

theorem digit_of_mem_decimal {n : Nat} (h : byte ∈ decimal n) : 48 ≤ byte ∧ byte ≤ 57 := by
  obtain ⟨c, hc, rfl⟩ := mem_map.mp h
  have hdigit := Nat.isDigit_of_mem_toDigits (by decide) (by decide) hc
  rw [Char.isDigit, Bool.and_eq_true, decide_eq_true_eq, decide_eq_true_eq, ge_iff_le,
    UInt32.le_iff_toNat_le] at hdigit
  have hdigit : 48 ≤ c.toNat ∧ c.toNat ≤ 57 := hdigit
  rw [UInt8.le_iff_toNat_le, UInt8.le_iff_toNat_le, UInt8.toNat_ofNat', Nat.mod_eq_of_lt (by omega)]
  exact hdigit

theorem isLine_decimal (n : Nat) : IsLine (decimal n) := by
  intro byte hbyte
  have hdigit := digit_of_mem_decimal hbyte
  constructor <;> rintro rfl <;> exact absurd hdigit (by decide)

theorem count_quote_decimal (n : Nat) : (decimal n).count quote = 0 :=
  count_eq_zero.mpr fun hmem => absurd (digit_of_mem_decimal hmem) (by decide)

theorem names_plain : ∀ field ∈ event.numbers,
    IsLine (ascii field.1) ∧ (ascii field.1).count quote = 0 := by
  simp only [ServiceEvent.numbers, forall_mem_cons]
  decide

theorem sseEventName_plain :
    IsLine (ascii event.sseEventName) ∧ (ascii event.sseEventName).count quote = 0 := by
  rw [ServiceEvent.sseEventName]
  split_ifs <;> decide

theorem isLine_numbers : IsLine (event.numbers.flatMap numberField) := by
  intro byte hbyte
  obtain ⟨field, hfield, hmem⟩ := mem_flatMap.mp hbyte
  refine (isLine_append (isLine_append (isLine_append (isLine_append ?_ ?_) ?_) ?_) ?_ :
    IsLine (numberField field)) byte hmem
  · decide
  · exact (names_plain event field hfield).1
  · decide
  · exact isLine_decimal field.2
  · decide

theorem count_quote_frameHead : (frameHead event).count quote = 18 := by
  have hfields : (event.numbers.flatMap numberField).count quote = 16 := by
    rw [count_flatMap, map_congr_left (g := fun _ => 2)]
    · rfl
    intro field hfield
    show (numberField field).count quote = 2
    simp only [numberField, count_append]
    rw [(names_plain event field hfield).2, count_quote_decimal]
    rfl
  simp only [frameHead, count_append]
  rw [hfields, (sseEventName_plain event).2]
  rfl

theorem eq_of_append_quote {front front' rest' : List UInt8}
    (hcount : front.count quote = front'.count quote)
    (h : front ++ quote :: rest = front' ++ quote :: rest') : rest = rest' := by
  rcases append_eq_append_iff.mp h with ⟨mid, rfl, hmid⟩ | ⟨mid, rfl, hmid⟩
  all_goals
    cases mid with
    | nil => cases hmid; rfl
    | cons =>
      obtain ⟨rfl, -⟩ := List.cons.inj hmid
      simp at hcount

/-- A frame is an event line, a data line and a blank line, whatever the text is. The text ends at
the first unescaped quote, which is the last one, and can be read back. -/
theorem buildServiceEventFrame_framed (event : ServiceEvent) (tokenText : List UInt8) :
    (∃ eventLine front text : List UInt8,
      let dataLine := front ++ ascii "\"text\":\"" ++ text ++ ascii "\"\x7d"
      buildServiceEventFrame event tokenText = eventLine ++ [lineFeed] ++ dataLine ++ [lineFeed] ++
        [lineFeed] ∧ ascii "event: " <+: eventLine ∧ ascii "data: " <+: dataLine ∧
      IsLine eventLine ∧ IsLine dataLine ∧
      splitString (text ++ ascii "\"\x7d\n\n") = some (text, ascii "\x7d\n\n") ∧
      unescape text = some tokenText) ∧
    ∀ event' tokenText', tokenText ≠ tokenText' →
      buildServiceEventFrame event tokenText ≠ buildServiceEventFrame event' tokenText' := by
  refine ⟨⟨ascii "event: " ++ ascii event.sseEventName,
    ascii "data: \x7b" ++ event.numbers.flatMap numberField, escape tokenText, ?_, ?_, ?_, ?_, ?_,
    splitString_escape _ _, unescape_escape _⟩, fun event' tokenText' hne heq => hne ?_⟩
  · simp only [buildServiceEventFrame_eq, frameHead, append_assoc]
    rfl
  · exact prefix_append _ _
  · exact prefix_append (ascii "data: ") _
  · exact isLine_append (by decide) (sseEventName_plain event).1
  · exact isLine_append (isLine_append (isLine_append (isLine_append (by decide)
      (isLine_numbers event)) (by decide)) (isLine_escape tokenText)) (by decide)
  · rw [buildServiceEventFrame_eq, buildServiceEventFrame_eq] at heq
    have htext := congrArg splitString (eq_of_append_quote
      ((count_quote_frameHead event).trans (count_quote_frameHead event').symm) heq)
    rw [splitString_escape, splitString_escape] at htext
    have hsame : escape tokenText = escape tokenText' := congrArg Prod.fst (Option.some.inj htext)
    rw [← Option.some_inj, ← unescape_escape, hsame, unescape_escape]

end SparkPipe.HttpGateway
