import SparkPipe.Core.BatchSequenceTable
import SparkPipe.Core.DraftRows
import SparkPipe.Core.KvResidency
import SparkPipe.Core.PrefixCache.Isolation
import SparkPipe.Core.PrefixCache.Reservation
import SparkPipe.Core.PrefixCache.Refusal
import SparkPipe.Core.PrefixCache.Trimming
import SparkPipe.Core.PrefixCache.Walkers
import SparkPipe.Node.RankDaemon.Framing
import SparkPipe.Node.RankDaemon.LedgerMap
import SparkPipe.Node.RankDaemon.Replay
import SparkPipe.Sched.Scheduler.Run
import SparkPipe.Sched.WorkControl.Cancellation
import SparkPipe.Sched.WorkControl.KvIndex
import SparkPipe.Sched.WorkControl.Prefetch
import SparkPipe.Sched.WorkControl.Refusal
import SparkPipe.Sched.WorkControl.Tables
import SparkPipe.Serve.Engine.Backpressure
import SparkPipe.Serve.Engine.Settlement
import SparkPipe.Serve.HttpGateway
import SparkPipe.Serve.RequestApi.DecodeBatch
