import ArrowKV.Util.Buf
import ArrowKV.Stream.Types
import ArrowKV.Stream.Channel
import ArrowKV.Stream.IOScheduler
import ArrowKV.Catalog.CatalogSet
import ArrowKV.Storage.Tributary
import ArrowKV.Storage.Pipeline
import ArrowKV.Storage.StreamDB
import ArrowKV.Storage.Concurrent
import ArrowKV.Storage.GracePeriod
import ArrowKV.Storage.ReaderWakeup
import ArrowKV.Query.BoundExpr
import ArrowKV.Query.Binder
import ArrowKV.Query.BindInsert
import ArrowKV.Query.ExpressionExecutor
import ArrowKV.Query.BindSelect
import ArrowKV.File.Tenant
