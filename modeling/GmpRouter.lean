import GmpRouter.Foundations.Simulation
import GmpRouter.Evm.Delivery
import GmpRouter.Evm.Admin
import GmpRouter.Evm.Value
import GmpRouter.Evm.Status
import GmpRouter.Evm.ConfigurationLog
import GmpRouter.Evm.StatusLog
import GmpRouter.Evm.RecvBitmap
import GmpRouter.Evm.Routing
import GmpRouter.Evm.Quote
import GmpRouter.Svm.Attestation
import GmpRouter.Svm.Events
import GmpRouter.Svm.Registry
import GmpRouter.Svm.AdapterLog
import GmpRouter.Svm.Commutation
import GmpRouter.Svm.Isolation
import GmpRouter.Aptos.Outbox
import GmpRouter.Aptos.Registry
import GmpRouter.Aptos.Destination
import GmpRouter.Parity.Admin
import GmpRouter.Parity.Digest
import GmpRouter.Parity.SvmAptos
import GmpRouter.Parity.EvmSvm
import GmpRouter.Parity.Status
import GmpRouter.Network.Delivery
import GmpRouter.Evm.Simulation
import GmpRouter.Parity.EvmAptos
import GmpRouter.Parity.Availability
import GmpRouter.Aptos.Isolation
import GmpRouter.Evm.Isolation
import GmpRouter.Parity.Control
import GmpRouter.Network.Progress
