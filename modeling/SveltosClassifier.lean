import SveltosClassifier.Api
import SveltosClassifier.Index
import SveltosClassifier.KeyManager
import SveltosClassifier.Async
import SveltosClassifier.Reads
import SveltosClassifier.Process
import SveltosClassifier.Matching
import SveltosClassifier.Deploy
import SveltosClassifier.Reconcile
import SveltosClassifier.System
import SveltosClassifier.Admission
import SveltosClassifier.Status
import SveltosClassifier.Deletion
import SveltosClassifier.Registrations
import SveltosClassifier.Convergence
import SveltosClassifier.Mirrors
import SveltosClassifier.Collector
import SveltosClassifier.Endpoint
import SveltosClassifier.Handlers
import SveltosClassifier.Effects
import SveltosClassifier.Workers
