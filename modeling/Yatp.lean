import Yatp.Future.State
import Yatp.Future.Step
import Yatp.Future.Inversion
import Yatp.Future.Holders
import Yatp.Future.Lifecycle
import Yatp.Future.Ownership
import Yatp.Future.Threads
import Yatp.Future.Remote
import Yatp.Future.Panics
import Yatp.Future.RefCount
import Yatp.Future.Handle
import Yatp.Future.Safety
import Yatp.Future.Drops
import Yatp.Pool.Worker
import Yatp.Pool.Builder
