import ChainConformance.Exception.Mapper

/-!
# The tables of known clients

What the messages of the known clients mean.
-/

namespace ChainConformance.ExceptionMapper

def containing (text : String) (tag : ExceptionTag) : WrittenRule :=
  ⟨some text, none, tag, none, none⟩

def matching (source : String) (tag : ExceptionTag) : WrittenRule :=
  ⟨none, some source, tag, none, none⟩

def since (fork : Fork) (r : WrittenRule) : WrittenRule := { r with start := some fork }

def before (fork : Fork) (r : WrittenRule) : WrittenRule := { r with stop := some fork }

def gethRules : List WrittenRule := [
  containing "insufficient funds for gas * price + value"
    (.transaction .insufficientAccountFunds),
  containing "nonce too high" (.transaction .nonceMismatchTooHigh),
  containing "nonce too low" (.transaction .nonceMismatchTooLow),
  containing "nonce has max value" (.transaction .nonceIsMax),
  containing "insufficient gas for floor data gas cost"
    (.transaction .intrinsicGasBelowFloorGasCost),
  containing "intrinsic gas too low" (.transaction .intrinsicGasTooLow),
  containing "max priority fee per gas higher than max fee per gas"
    (.transaction .priorityGreaterThanMaxFeePerGas),
  containing "max fee per gas less than block base fee"
    (.transaction .insufficientMaxFeePerGas),
  containing "max fee per blob gas less than block blob gas fee"
    (.transaction .insufficientMaxFeePerBlobGas),
  containing "max initcode size exceeded" (.transaction .initcodeSizeExceeded),
  containing "blob transaction missing blob hashes" (.transaction .type3TxZeroBlobs),
  containing "blob transaction of type create" (.transaction .type3TxContractCreation),
  containing "has invalid hash version" (.transaction .type3TxInvalidBlobVersionedHash),
  matching "blob gas used \\d+ exceeds maximum allowance \\d+"
    (.transaction .type3TxMaxBlobGasAllowanceExceeded),
  containing "set code transaction must not be a create transaction"
    (.transaction .type4TxContractCreation),
  containing "EIP-7702 transaction with empty auth list"
    (.transaction .type4EmptyAuthorizationList),
  before .cancun <| containing "transaction type not supported" (.transaction .type3TxPreFork),
  before .prague <| since .cancun <| containing "transaction type not supported"
    (.transaction .type4TxPreFork),
  containing "sender not an eoa" (.transaction .senderNotEoa),
  containing "gas limit reached" (.transaction .gasAllowanceExceeded),
  containing "invalid excessBlobGas" (.block .incorrectExcessBlobGas),
  containing "blob gas used mismatch" (.block .incorrectBlobGasUsed),
  matching "blob gas used \\d+ exceeds maximum" (.block .blobGasUsedAboveLimit),
  containing "invalid merkle root" (.block .invalidStateRoot),
  containing "invalid gas used" (.block .invalidGasUsed),
  containing "invalid block number" (.block .invalidBlockNumber),
  containing "unknown ancestor" (.block .unknownParent),
  containing "invalid baseFee" (.block .invalidBasefeePerGas),
  containing "invalid gas limit" (.block .invalidGaslimit),
  containing "invalid extradata length" (.block .extraDataTooBig),
  containing "timestamp older than parent" (.block .invalidBlockTimestampOlderThanParent),
  containing "invalid receipt root hash" (.block .invalidReceiptsRoot),
  containing "invalid bloom" (.block .invalidLogBloom),
  containing "withdrawals root hash mismatch" (.block .invalidWithdrawalsRoot),
  containing "invalid requests hash" (.block .invalidRequests),
  containing "uncles not allowed" (.block .importImpossibleUnclesOverParis),
  matching "^rlp: " (.block .rlpStructuresEncoding)]

def rethRules : List WrittenRule := [
  containing "lack of funds" (.transaction .insufficientAccountFunds),
  containing "nonce is too high" (.transaction .nonceMismatchTooHigh),
  containing "nonce is too low" (.transaction .nonceMismatchTooLow),
  containing "call gas cost exceeds the gas limit" (.transaction .intrinsicGasTooLow),
  containing "gas floor exceeds the gas limit" (.transaction .intrinsicGasBelowFloorGasCost),
  containing "gas price is less than basefee" (.transaction .insufficientMaxFeePerGas),
  containing "priority fee is greater than max fee"
    (.transaction .priorityGreaterThanMaxFeePerGas),
  containing "blob gas price is greater than max fee per blob gas"
    (.transaction .insufficientMaxFeePerBlobGas),
  containing "create initcode size limit" (.transaction .initcodeSizeExceeded),
  containing "empty blobs" (.transaction .type3TxZeroBlobs),
  containing "blob version not supported" (.transaction .type3TxInvalidBlobVersionedHash),
  containing "reject transactions from senders with deployed code" (.transaction .senderNotEoa),
  matching "transaction gas limit \\d+ is more than blocks available gas \\d+"
    (.transaction .gasAllowanceExceeded),
  containing "mismatched block state root" (.block .invalidStateRoot),
  containing "block gas used mismatch" (.block .invalidGasUsed),
  containing "blob gas used mismatch" (.block .incorrectBlobGasUsed),
  containing "excess blob gas mismatch" (.block .incorrectExcessBlobGas),
  containing "receipt root mismatch" (.block .invalidReceiptsRoot),
  containing "block parent not found" (.block .unknownParent),
  containing "mismatched requests hash" (.block .invalidRequests)]

def nethermindRules : List WrittenRule := [
  containing "InsufficientSenderBalance" (.transaction .insufficientAccountFunds),
  matching "wrong transaction nonce|NonceTooHigh" (.transaction .nonceMismatchTooHigh),
  containing "NonceTooLow" (.transaction .nonceMismatchTooLow),
  containing "IntrinsicGasTooLow" (.transaction .intrinsicGasTooLow),
  containing "MinerPremiumNegative" (.transaction .insufficientMaxFeePerGas),
  containing "InsufficientMaxFeePerBlobGas" (.transaction .insufficientMaxFeePerBlobGas),
  containing "SenderNotEoa" (.transaction .senderNotEoa),
  containing "BlockGasLimitExceeded" (.transaction .gasAllowanceExceeded),
  containing "InvalidStateRoot" (.block .invalidStateRoot),
  containing "HeaderGasUsedMismatch" (.block .invalidGasUsed),
  containing "HeaderBlobGasMismatch" (.block .incorrectBlobGasUsed),
  containing "HeaderExcessBlobGasMismatch" (.block .incorrectExcessBlobGas),
  containing "InvalidReceiptsRoot" (.block .invalidReceiptsRoot),
  containing "InvalidRequestsHash" (.block .invalidRequests)]

def besuRules : List WrittenRule := [
  containing "Upfront cost exceeds account balance" (.transaction .insufficientAccountFunds),
  containing "Transaction nonce is too high" (.transaction .nonceMismatchTooHigh),
  containing "Transaction nonce is too low" (.transaction .nonceMismatchTooLow),
  containing "Intrinsic gas exceeds gas limit" (.transaction .intrinsicGasTooLow),
  containing "gasPrice is less than the current BaseFee"
    (.transaction .insufficientMaxFeePerGas),
  containing "max priority fee per gas cannot be greater than max fee per gas"
    (.transaction .priorityGreaterThanMaxFeePerGas),
  containing "Sender is not an EOA" (.transaction .senderNotEoa),
  containing "World State Root does not match" (.block .invalidStateRoot),
  containing "Gas used does not match" (.block .invalidGasUsed),
  containing "Invalid excessBlobGas" (.block .incorrectExcessBlobGas),
  containing "Receipt Root does not match" (.block .invalidReceiptsRoot)]

def erigonRules : List WrittenRule := [
  containing "insufficient funds for gas * price + value"
    (.transaction .insufficientAccountFunds),
  containing "nonce too high" (.transaction .nonceMismatchTooHigh),
  containing "nonce too low" (.transaction .nonceMismatchTooLow),
  containing "intrinsic gas too low" (.transaction .intrinsicGasTooLow),
  containing "fee cap less than block base fee" (.transaction .insufficientMaxFeePerGas),
  containing "wrong trie root" (.block .invalidStateRoot),
  containing "gas used by execution" (.block .invalidGasUsed)]

def compiled (aliases : List String) (rules : List WrittenRule) : ClientTable :=
  ⟨aliases, rules.filterMap fun r => (r.compile .own).toOption⟩

def bundled : ExceptionMapper where
  clients := .ofList [
    ("geth", compiled ["go-ethereum", "evm", "t8n"] gethRules),
    ("reth", compiled [] rethRules),
    ("nethermind", compiled [] nethermindRules),
    ("besu", compiled [] besuRules),
    ("erigon", compiled [] erigonRules)]

end ChainConformance.ExceptionMapper
