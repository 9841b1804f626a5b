/-!
# Instrument names

The exchange names a perpetual swap by its canonical pair with `-SWAP` behind it.  A table of
registered names comes first; the suffix rule covers all others.
-/

namespace SwapFeed

/-- The registered names of both directions, latest first. -/
structure SymbolTable where
  natives : List (String × String) := []
  canonicals : List (String × String) := []
  deriving DecidableEq, Inhabited, Repr

/-- A native id that is neither registered nor follows the suffix rule. -/
structure UnknownSymbol where
  native : String
  deriving DecidableEq, Repr

namespace UnknownSymbol

def message (error : UnknownSymbol) : String :=
  "unknown instrument id '" ++ error.native ++ "'"

end UnknownSymbol

namespace SymbolTable

def swapSuffix : String := "-SWAP"

/-- The part of a name in front of the suffix, if there is one that is not empty. -/
def stripSuffix? (name : String) : Option String :=
  let chars := name.toList
  let length := chars.length - swapSuffix.toList.length
  if 0 < length ∧ chars.drop length = swapSuffix.toList then
    some (String.ofList (chars.take length))
  else none

/-- Register a canonical name and a native id for one another. -/
def register (table : SymbolTable) (canonical native : String) : SymbolTable where
  natives := (canonical, native) :: table.natives
  canonicals := (native, canonical) :: table.canonicals

/-- A table with every listed pair under its suffixed name. -/
def ofPairs (pairs : List String) : SymbolTable :=
  pairs.foldl (fun table pair => table.register pair (pair ++ swapSuffix)) {}

/-- The native id of a canonical name. -/
def toNative (table : SymbolTable) (canonical : String) : String :=
  match table.natives.lookup canonical with
  | some native => native
  | none => if (stripSuffix? canonical).isSome then canonical else canonical ++ swapSuffix

/-- The canonical name of a native id. -/
def toCanonical (table : SymbolTable) (native : String) : Except UnknownSymbol String :=
  match table.canonicals.lookup native with
  | some canonical => .ok canonical
  | none =>
      match stripSuffix? native with
      | some canonical => .ok canonical
      | none => .error ⟨native⟩

@[simp] theorem toNative_register_self (table : SymbolTable) (canonical native : String) :
    (table.register canonical native).toNative canonical = native := by
  simp [toNative, register]

@[simp] theorem toCanonical_register_self (table : SymbolTable) (canonical native : String) :
    (table.register canonical native).toCanonical native = .ok canonical := by
  simp [toCanonical, register]

end SymbolTable

end SwapFeed
