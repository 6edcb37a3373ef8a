import ShadowCopy.Data.Reader

namespace ShadowCopy.Core

open ShadowCopy.Data

inductive VssError where
  | io (source : IoError)
  | storeIndexOutOfRange (index count : Nat)
  | storeInfoUnavailable (index : Nat)
  | storeOffsetOutOfBounds (index : Nat) (offset volumeSize : UInt64)
  deriving DecidableEq, Repr

instance : FromIoError VssError := ⟨.io⟩

end ShadowCopy.Core
