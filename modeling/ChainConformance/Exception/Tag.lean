import ChainConformance.Text.Blank

/-!
# Exception tags

The reasons for which a transaction, a block or a code container is invalid. A tag is
written as its category and its reason with a point between them.
-/

namespace ChainConformance

/-- Why a transaction makes its block invalid. -/
inductive TransactionException where
  | senderNotEoa
  | addressTooShort
  | addressTooLong
  | nonceMismatchTooHigh
  | nonceMismatchTooLow
  | nonceTooBig
  | nonceIsMax
  | nonceOverflow
  | gaslimitOverflow
  | valueOverflow
  | gaspriceOverflow
  | gaslimitPriceProductOverflow
  | invalidSignatureVrs
  | rlpInvalidSignatureR
  | rlpInvalidSignatureS
  | rlpLeadingZerosGaslimit
  | rlpLeadingZerosGasprice
  | rlpLeadingZerosValue
  | rlpLeadingZerosNonce
  | rlpLeadingZerosR
  | rlpLeadingZerosS
  | rlpLeadingZerosV
  | rlpLeadingZerosBasefee
  | rlpLeadingZerosPriorityFee
  | rlpLeadingZerosData
  | rlpLeadingZerosNonceSize
  | rlpTooFewElements
  | rlpTooManyElements
  | rlpInvalidData
  | rlpInvalidGasLimit
  | rlpInvalidNonce
  | rlpInvalidTo
  | rlpInvalidAccessListAddressTooLong
  | rlpInvalidAccessListAddressTooShort
  | rlpInvalidAccessListStorageTooLong
  | rlpInvalidAccessListStorageTooShort
  | rlpInvalidHeader
  | rlpInvalidValue
  | ecRecoveryFail
  | insufficientAccountFunds
  | insufficientMaxFeePerGas
  | priorityGreaterThanMaxFeePerGas
  | priorityOverflow
  | intrinsicGasTooLow
  | intrinsicGasBelowFloorGasCost
  | initcodeSizeExceeded
  | gasAllowanceExceeded
  | gasLimitExceedsMaximum
  | type1TxPreFork
  | type2TxPreFork
  | type3TxPreFork
  | type3TxZeroBlobsPreFork
  | type3TxInvalidBlobVersionedHash
  | type3TxWithFullBlobs
  | type3TxBlobCountExceeded
  | type3TxContractCreation
  | type3TxMaxBlobGasAllowanceExceeded
  | type3TxZeroBlobs
  | insufficientMaxFeePerBlobGas
  | type4EmptyAuthorizationList
  | type4TxContractCreation
  | type4TxPreFork
  | type4InvalidAuthoritySignature
  | type4InvalidAuthoritySignatureSTooHigh
  | type4InvalidAuthorizationFormat
  | typeNotSupported
  deriving Repr, DecidableEq

def TransactionException.name : TransactionException → String
  | senderNotEoa => "SENDER_NOT_EOA"
  | addressTooShort => "ADDRESS_TOO_SHORT"
  | addressTooLong => "ADDRESS_TOO_LONG"
  | nonceMismatchTooHigh => "NONCE_MISMATCH_TOO_HIGH"
  | nonceMismatchTooLow => "NONCE_MISMATCH_TOO_LOW"
  | nonceTooBig => "NONCE_TOO_BIG"
  | nonceIsMax => "NONCE_IS_MAX"
  | nonceOverflow => "NONCE_OVERFLOW"
  | gaslimitOverflow => "GASLIMIT_OVERFLOW"
  | valueOverflow => "VALUE_OVERFLOW"
  | gaspriceOverflow => "GASPRICE_OVERFLOW"
  | gaslimitPriceProductOverflow => "GASLIMIT_PRICE_PRODUCT_OVERFLOW"
  | invalidSignatureVrs => "INVALID_SIGNATURE_VRS"
  | rlpInvalidSignatureR => "RLP_INVALID_SIGNATURE_R"
  | rlpInvalidSignatureS => "RLP_INVALID_SIGNATURE_S"
  | rlpLeadingZerosGaslimit => "RLP_LEADING_ZEROS_GASLIMIT"
  | rlpLeadingZerosGasprice => "RLP_LEADING_ZEROS_GASPRICE"
  | rlpLeadingZerosValue => "RLP_LEADING_ZEROS_VALUE"
  | rlpLeadingZerosNonce => "RLP_LEADING_ZEROS_NONCE"
  | rlpLeadingZerosR => "RLP_LEADING_ZEROS_R"
  | rlpLeadingZerosS => "RLP_LEADING_ZEROS_S"
  | rlpLeadingZerosV => "RLP_LEADING_ZEROS_V"
  | rlpLeadingZerosBasefee => "RLP_LEADING_ZEROS_BASEFEE"
  | rlpLeadingZerosPriorityFee => "RLP_LEADING_ZEROS_PRIORITY_FEE"
  | rlpLeadingZerosData => "RLP_LEADING_ZEROS_DATA"
  | rlpLeadingZerosNonceSize => "RLP_LEADING_ZEROS_NONCE_SIZE"
  | rlpTooFewElements => "RLP_TOO_FEW_ELEMENTS"
  | rlpTooManyElements => "RLP_TOO_MANY_ELEMENTS"
  | rlpInvalidData => "RLP_INVALID_DATA"
  | rlpInvalidGasLimit => "RLP_INVALID_GAS_LIMIT"
  | rlpInvalidNonce => "RLP_INVALID_NONCE"
  | rlpInvalidTo => "RLP_INVALID_TO"
  | rlpInvalidAccessListAddressTooLong => "RLP_INVALID_ACCESS_LIST_ADDRESS_TOO_LONG"
  | rlpInvalidAccessListAddressTooShort => "RLP_INVALID_ACCESS_LIST_ADDRESS_TOO_SHORT"
  | rlpInvalidAccessListStorageTooLong => "RLP_INVALID_ACCESS_LIST_STORAGE_TOO_LONG"
  | rlpInvalidAccessListStorageTooShort => "RLP_INVALID_ACCESS_LIST_STORAGE_TOO_SHORT"
  | rlpInvalidHeader => "RLP_INVALID_HEADER"
  | rlpInvalidValue => "RLP_INVALID_VALUE"
  | ecRecoveryFail => "EC_RECOVERY_FAIL"
  | insufficientAccountFunds => "INSUFFICIENT_ACCOUNT_FUNDS"
  | insufficientMaxFeePerGas => "INSUFFICIENT_MAX_FEE_PER_GAS"
  | priorityGreaterThanMaxFeePerGas => "PRIORITY_GREATER_THAN_MAX_FEE_PER_GAS"
  | priorityOverflow => "PRIORITY_OVERFLOW"
  | intrinsicGasTooLow => "INTRINSIC_GAS_TOO_LOW"
  | intrinsicGasBelowFloorGasCost => "INTRINSIC_GAS_BELOW_FLOOR_GAS_COST"
  | initcodeSizeExceeded => "INITCODE_SIZE_EXCEEDED"
  | gasAllowanceExceeded => "GAS_ALLOWANCE_EXCEEDED"
  | gasLimitExceedsMaximum => "GAS_LIMIT_EXCEEDS_MAXIMUM"
  | type1TxPreFork => "TYPE_1_TX_PRE_FORK"
  | type2TxPreFork => "TYPE_2_TX_PRE_FORK"
  | type3TxPreFork => "TYPE_3_TX_PRE_FORK"
  | type3TxZeroBlobsPreFork => "TYPE_3_TX_ZERO_BLOBS_PRE_FORK"
  | type3TxInvalidBlobVersionedHash => "TYPE_3_TX_INVALID_BLOB_VERSIONED_HASH"
  | type3TxWithFullBlobs => "TYPE_3_TX_WITH_FULL_BLOBS"
  | type3TxBlobCountExceeded => "TYPE_3_TX_BLOB_COUNT_EXCEEDED"
  | type3TxContractCreation => "TYPE_3_TX_CONTRACT_CREATION"
  | type3TxMaxBlobGasAllowanceExceeded => "TYPE_3_TX_MAX_BLOB_GAS_ALLOWANCE_EXCEEDED"
  | type3TxZeroBlobs => "TYPE_3_TX_ZERO_BLOBS"
  | insufficientMaxFeePerBlobGas => "INSUFFICIENT_MAX_FEE_PER_BLOB_GAS"
  | type4EmptyAuthorizationList => "TYPE_4_EMPTY_AUTHORIZATION_LIST"
  | type4TxContractCreation => "TYPE_4_TX_CONTRACT_CREATION"
  | type4TxPreFork => "TYPE_4_TX_PRE_FORK"
  | type4InvalidAuthoritySignature => "TYPE_4_INVALID_AUTHORITY_SIGNATURE"
  | type4InvalidAuthoritySignatureSTooHigh => "TYPE_4_INVALID_AUTHORITY_SIGNATURE_S_TOO_HIGH"
  | type4InvalidAuthorizationFormat => "TYPE_4_INVALID_AUTHORIZATION_FORMAT"
  | typeNotSupported => "TYPE_NOT_SUPPORTED"

def TransactionException.all : List TransactionException := [
  .senderNotEoa, .addressTooShort, .addressTooLong, .nonceMismatchTooHigh, .nonceMismatchTooLow,
  .nonceTooBig, .nonceIsMax, .nonceOverflow, .gaslimitOverflow, .valueOverflow,
  .gaspriceOverflow, .gaslimitPriceProductOverflow, .invalidSignatureVrs, .rlpInvalidSignatureR,
  .rlpInvalidSignatureS, .rlpLeadingZerosGaslimit, .rlpLeadingZerosGasprice,
  .rlpLeadingZerosValue, .rlpLeadingZerosNonce, .rlpLeadingZerosR, .rlpLeadingZerosS,
  .rlpLeadingZerosV, .rlpLeadingZerosBasefee, .rlpLeadingZerosPriorityFee, .rlpLeadingZerosData,
  .rlpLeadingZerosNonceSize, .rlpTooFewElements, .rlpTooManyElements, .rlpInvalidData,
  .rlpInvalidGasLimit, .rlpInvalidNonce, .rlpInvalidTo, .rlpInvalidAccessListAddressTooLong,
  .rlpInvalidAccessListAddressTooShort, .rlpInvalidAccessListStorageTooLong,
  .rlpInvalidAccessListStorageTooShort, .rlpInvalidHeader, .rlpInvalidValue, .ecRecoveryFail,
  .insufficientAccountFunds, .insufficientMaxFeePerGas, .priorityGreaterThanMaxFeePerGas,
  .priorityOverflow, .intrinsicGasTooLow, .intrinsicGasBelowFloorGasCost, .initcodeSizeExceeded,
  .gasAllowanceExceeded, .gasLimitExceedsMaximum, .type1TxPreFork, .type2TxPreFork,
  .type3TxPreFork, .type3TxZeroBlobsPreFork, .type3TxInvalidBlobVersionedHash,
  .type3TxWithFullBlobs, .type3TxBlobCountExceeded, .type3TxContractCreation,
  .type3TxMaxBlobGasAllowanceExceeded, .type3TxZeroBlobs, .insufficientMaxFeePerBlobGas,
  .type4EmptyAuthorizationList, .type4TxContractCreation, .type4TxPreFork,
  .type4InvalidAuthoritySignature, .type4InvalidAuthoritySignatureSTooHigh,
  .type4InvalidAuthorizationFormat, .typeNotSupported]

/-- Why a block is invalid whatever its transactions are. -/
inductive BlockException where
  | incorrectBlockFormat
  | blobGasUsedAboveLimit
  | incorrectBlobGasUsed
  | incorrectExcessBlobGas
  | rlpStructuresEncoding
  | rlpWithdrawalsNotRead
  | rlpInvalidFieldOverflow64
  | rlpInvalidAddress
  | rlpBlockLimitExceeded
  | invalidRequests
  | importImpossibleUnclesOverParis
  | importImpossibleDifficultyOverParis
  | unknownParent
  | unknownParentZero
  | gaslimitTooBig
  | invalidBlockNumber
  | invalidBlockTimestampOlderThanParent
  | invalidBasefeePerGas
  | invalidGaslimit
  | invalidGasUsed
  | invalidGasUsedAboveLimit
  | invalidStateRoot
  | invalidReceiptsRoot
  | invalidTransactionsRoot
  | invalidUnclesHash
  | invalidLogBloom
  | invalidWithdrawalsRoot
  | invalidBlockHash
  | extraDataTooBig
  | invalidDepositEventLayout
  | systemContractEmpty
  | systemContractCallFailed
  deriving Repr, DecidableEq

def BlockException.name : BlockException → String
  | incorrectBlockFormat => "INCORRECT_BLOCK_FORMAT"
  | blobGasUsedAboveLimit => "BLOB_GAS_USED_ABOVE_LIMIT"
  | incorrectBlobGasUsed => "INCORRECT_BLOB_GAS_USED"
  | incorrectExcessBlobGas => "INCORRECT_EXCESS_BLOB_GAS"
  | rlpStructuresEncoding => "RLP_STRUCTURES_ENCODING"
  | rlpWithdrawalsNotRead => "RLP_WITHDRAWALS_NOT_READ"
  | rlpInvalidFieldOverflow64 => "RLP_INVALID_FIELD_OVERFLOW_64"
  | rlpInvalidAddress => "RLP_INVALID_ADDRESS"
  | rlpBlockLimitExceeded => "RLP_BLOCK_LIMIT_EXCEEDED"
  | invalidRequests => "INVALID_REQUESTS"
  | importImpossibleUnclesOverParis => "IMPORT_IMPOSSIBLE_UNCLES_OVER_PARIS"
  | importImpossibleDifficultyOverParis => "IMPORT_IMPOSSIBLE_DIFFICULTY_OVER_PARIS"
  | unknownParent => "UNKNOWN_PARENT"
  | unknownParentZero => "UNKNOWN_PARENT_ZERO"
  | gaslimitTooBig => "GASLIMIT_TOO_BIG"
  | invalidBlockNumber => "INVALID_BLOCK_NUMBER"
  | invalidBlockTimestampOlderThanParent => "INVALID_BLOCK_TIMESTAMP_OLDER_THAN_PARENT"
  | invalidBasefeePerGas => "INVALID_BASEFEE_PER_GAS"
  | invalidGaslimit => "INVALID_GASLIMIT"
  | invalidGasUsed => "INVALID_GAS_USED"
  | invalidGasUsedAboveLimit => "INVALID_GAS_USED_ABOVE_LIMIT"
  | invalidStateRoot => "INVALID_STATE_ROOT"
  | invalidReceiptsRoot => "INVALID_RECEIPTS_ROOT"
  | invalidTransactionsRoot => "INVALID_TRANSACTIONS_ROOT"
  | invalidUnclesHash => "INVALID_UNCLES_HASH"
  | invalidLogBloom => "INVALID_LOG_BLOOM"
  | invalidWithdrawalsRoot => "INVALID_WITHDRAWALS_ROOT"
  | invalidBlockHash => "INVALID_BLOCK_HASH"
  | extraDataTooBig => "EXTRA_DATA_TOO_BIG"
  | invalidDepositEventLayout => "INVALID_DEPOSIT_EVENT_LAYOUT"
  | systemContractEmpty => "SYSTEM_CONTRACT_EMPTY"
  | systemContractCallFailed => "SYSTEM_CONTRACT_CALL_FAILED"

def BlockException.all : List BlockException := [
  .incorrectBlockFormat, .blobGasUsedAboveLimit, .incorrectBlobGasUsed, .incorrectExcessBlobGas,
  .rlpStructuresEncoding, .rlpWithdrawalsNotRead, .rlpInvalidFieldOverflow64, .rlpInvalidAddress,
  .rlpBlockLimitExceeded, .invalidRequests, .importImpossibleUnclesOverParis,
  .importImpossibleDifficultyOverParis, .unknownParent, .unknownParentZero, .gaslimitTooBig,
  .invalidBlockNumber, .invalidBlockTimestampOlderThanParent, .invalidBasefeePerGas,
  .invalidGaslimit, .invalidGasUsed, .invalidGasUsedAboveLimit, .invalidStateRoot,
  .invalidReceiptsRoot, .invalidTransactionsRoot, .invalidUnclesHash, .invalidLogBloom,
  .invalidWithdrawalsRoot, .invalidBlockHash, .extraDataTooBig, .invalidDepositEventLayout,
  .systemContractEmpty, .systemContractCallFailed]

/-- Why a code container is invalid. -/
inductive ContainerException where
  | defaultException
  | undefinedException
  | undefinedInstruction
  | unknownVersion
  | incompleteMagic
  | invalidMagic
  | invalidVersion
  | invalidNonReturningFlag
  | invalidRjumpDestination
  | missingTypeHeader
  | invalidTypeSectionSize
  | invalidTypeBody
  | missingCodeHeader
  | invalidCodeSection
  | incompleteCodeHeader
  | incompleteDataHeader
  | zeroSectionSize
  | missingDataSection
  | incompleteContainer
  | invalidSectionBodiesSize
  | trailingBytes
  | missingTerminator
  | missingHeadersTerminator
  | invalidFirstSectionType
  | invalidSectionCount
  | invalidMaxStackIncrease
  | invalidStackHeight
  | invalidDataloadnIndex
  | truncatedInstruction
  | tooManyCodeSections
  | stackHeightMismatch
  | stackUnderflow
  | stackOverflow
  | maxStackIncreaseAboveLimit
  | unreachableCodeSections
  | unreachableInstructions
  | invalidContainerSectionIndex
  | eofcreateWithTruncatedContainer
  | toplevelContainerTruncated
  deriving Repr, DecidableEq

def ContainerException.name : ContainerException → String
  | defaultException => "DEFAULT_EXCEPTION"
  | undefinedException => "UNDEFINED_EXCEPTION"
  | undefinedInstruction => "UNDEFINED_INSTRUCTION"
  | unknownVersion => "UNKNOWN_VERSION"
  | incompleteMagic => "INCOMPLETE_MAGIC"
  | invalidMagic => "INVALID_MAGIC"
  | invalidVersion => "INVALID_VERSION"
  | invalidNonReturningFlag => "INVALID_NON_RETURNING_FLAG"
  | invalidRjumpDestination => "INVALID_RJUMP_DESTINATION"
  | missingTypeHeader => "MISSING_TYPE_HEADER"
  | invalidTypeSectionSize => "INVALID_TYPE_SECTION_SIZE"
  | invalidTypeBody => "INVALID_TYPE_BODY"
  | missingCodeHeader => "MISSING_CODE_HEADER"
  | invalidCodeSection => "INVALID_CODE_SECTION"
  | incompleteCodeHeader => "INCOMPLETE_CODE_HEADER"
  | incompleteDataHeader => "INCOMPLETE_DATA_HEADER"
  | zeroSectionSize => "ZERO_SECTION_SIZE"
  | missingDataSection => "MISSING_DATA_SECTION"
  | incompleteContainer => "INCOMPLETE_CONTAINER"
  | invalidSectionBodiesSize => "INVALID_SECTION_BODIES_SIZE"
  | trailingBytes => "TRAILING_BYTES"
  | missingTerminator => "MISSING_TERMINATOR"
  | missingHeadersTerminator => "MISSING_HEADERS_TERMINATOR"
  | invalidFirstSectionType => "INVALID_FIRST_SECTION_TYPE"
  | invalidSectionCount => "INVALID_SECTION_COUNT"
  | invalidMaxStackIncrease => "INVALID_MAX_STACK_INCREASE"
  | invalidStackHeight => "INVALID_STACK_HEIGHT"
  | invalidDataloadnIndex => "INVALID_DATALOADN_INDEX"
  | truncatedInstruction => "TRUNCATED_INSTRUCTION"
  | tooManyCodeSections => "TOO_MANY_CODE_SECTIONS"
  | stackHeightMismatch => "STACK_HEIGHT_MISMATCH"
  | stackUnderflow => "STACK_UNDERFLOW"
  | stackOverflow => "STACK_OVERFLOW"
  | maxStackIncreaseAboveLimit => "MAX_STACK_INCREASE_ABOVE_LIMIT"
  | unreachableCodeSections => "UNREACHABLE_CODE_SECTIONS"
  | unreachableInstructions => "UNREACHABLE_INSTRUCTIONS"
  | invalidContainerSectionIndex => "INVALID_CONTAINER_SECTION_INDEX"
  | eofcreateWithTruncatedContainer => "EOFCREATE_WITH_TRUNCATED_CONTAINER"
  | toplevelContainerTruncated => "TOPLEVEL_CONTAINER_TRUNCATED"

def ContainerException.all : List ContainerException := [
  .defaultException, .undefinedException, .undefinedInstruction, .unknownVersion,
  .incompleteMagic, .invalidMagic, .invalidVersion, .invalidNonReturningFlag,
  .invalidRjumpDestination, .missingTypeHeader, .invalidTypeSectionSize, .invalidTypeBody,
  .missingCodeHeader, .invalidCodeSection, .incompleteCodeHeader, .incompleteDataHeader,
  .zeroSectionSize, .missingDataSection, .incompleteContainer, .invalidSectionBodiesSize,
  .trailingBytes, .missingTerminator, .missingHeadersTerminator, .invalidFirstSectionType,
  .invalidSectionCount, .invalidMaxStackIncrease, .invalidStackHeight, .invalidDataloadnIndex,
  .truncatedInstruction, .tooManyCodeSections, .stackHeightMismatch, .stackUnderflow,
  .stackOverflow, .maxStackIncreaseAboveLimit, .unreachableCodeSections,
  .unreachableInstructions, .invalidContainerSectionIndex, .eofcreateWithTruncatedContainer,
  .toplevelContainerTruncated]

/-- One specific reason for a rejection. -/
inductive ExceptionTag where
  | transaction (reason : TransactionException)
  | block (reason : BlockException)
  | container (reason : ContainerException)
  deriving Repr, DecidableEq

namespace ExceptionTag

def category : ExceptionTag → String
  | transaction _ => "TransactionException"
  | block _ => "BlockException"
  | container _ => "EOFException"

def reason : ExceptionTag → String
  | transaction r => r.name
  | block r => r.name
  | container r => r.name

def display (t : ExceptionTag) : String := t.category ++ "." ++ t.reason

def all : List ExceptionTag :=
  TransactionException.all.map transaction ++ BlockException.all.map block ++
    ContainerException.all.map container

/-- The tag with the given written form. White space around it does not count. -/
def ofText? (s : String) : Option ExceptionTag :=
  let written := Text.trim s
  all.find? (fun t => t.display == written)

/-- Whether the tag describes a malformed encoding, which may be noticed before the block
is executed. -/
def isDecodeFailure (t : ExceptionTag) : Bool :=
  "RLP_".isPrefixOf t.reason || t == block .incorrectBlockFormat

end ExceptionTag

end ChainConformance
