import WebRecipe.Error

/-!
# Registries

Handlers under names, in two layers: the built-in ones and extensions. A name is in one layer at most,
and its first registration stays.
-/

namespace WebRecipe

/-- Handlers of type `η` under names. -/
structure Registry (η : Type) where
  builtins : List (String × η) := []
  extensions : List (String × η) := []

namespace Registry

variable {η : Type}

/-- The handler under a name. -/
def get? (r : Registry η) (name : String) : Option η :=
  match r.builtins.lookup name with
  | some h => some h
  | none => r.extensions.lookup name

/-- Whether a name is taken. -/
def contains (r : Registry η) (name : String) : Bool :=
  (r.builtins.lookup name).isSome || (r.extensions.lookup name).isSome

/-- Whether a name is an extension. -/
def isExtension (r : Registry η) (name : String) : Bool :=
  (r.extensions.lookup name).isSome

/-- The number of names. -/
def size (r : Registry η) : Nat :=
  r.builtins.length + r.extensions.length

/-- Registers a built-in handler under a free name. -/
def addBuiltin (r : Registry η) (name : String) (handler : η) : Except ConfigError (Registry η) :=
  if r.contains name then .error (.duplicateAction name)
  else .ok { r with builtins := r.builtins ++ [(name, handler)] }

/-- Registers an extension under a free name. -/
def extend (r : Registry η) (name : String) (handler : η) : Except ConfigError (Registry η) :=
  if r.contains name then .error (.duplicateAction name)
  else .ok { r with extensions := r.extensions ++ [(name, handler)] }

end Registry
end WebRecipe
