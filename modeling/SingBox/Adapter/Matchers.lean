import SingBox.Adapter.Address

/-!
# Domain matchers and IP sets

What rules use of other libraries. They are parameters.
-/

namespace SingBox

abbrev GoString := List UInt8

abbrev IPSet := List (Option Addr × Option Addr)

structure DomainLibrary where
  Matcher : Type
  newMatcher : List GoString → List GoString → Bool → Matcher
  AdGuardMatcher : Type
  newAdGuardMatcher : List GoString → AdGuardMatcher

structure IPLibrary where
  parsePrefix : GoString → Except String IPPrefix
  parseAddr : GoString → Option Addr
  buildIPSet : List (IPPrefix ⊕ Addr) → Except String IPSet

namespace IPLibrary
variable (lib : IPLibrary)

def parseElements : List GoString → ℕ → Except String (List (IPPrefix ⊕ Addr))
  | [], _ => .ok []
  | s :: rest, i =>
    match lib.parsePrefix s with
    | .ok p => (parseElements rest (i + 1)).map (.inl p :: ·)
    | .error error =>
      match lib.parseAddr s with
      | some address => (parseElements rest (i + 1)).map (.inr address :: ·)
      | none => .error ("parse [" ++ toString i ++ "]: " ++ error)

def ipSetOf (value : List GoString) : Except String IPSet :=
  (lib.parseElements value 0).bind lib.buildIPSet

end IPLibrary

end SingBox
