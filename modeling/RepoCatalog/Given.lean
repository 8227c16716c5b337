/-!
# Given values

An option whose value is attached to it may be given nothing: the separator in place of a value is
taken away, and what is left is an empty list of values.
-/

namespace RepoCatalog

/-- What an option was given: a value, or nothing. -/
inductive Given (α : Type)
  | value (value : α)
  | nothing
  deriving DecidableEq, Repr

instance {α : Type} : Coe α (Given α) := ⟨.value⟩

namespace Given

variable {α β : Type}

/-- The value given, or another one in place of nothing. -/
def getD (fallback : α) : Given α → α
  | value given => given
  | nothing => fallback

/-- The value given, if there is one. -/
def toOption : Given α → Option α
  | value given => some given
  | nothing => none

/-- What was given, with its value changed. -/
def map (change : α → β) : Given α → Given β
  | value given => value (change given)
  | nothing => nothing

/-- How messages show what was given; nothing is an empty list. -/
def shown (spell : α → String) : Given α → String
  | value given => spell given
  | nothing => "[]"

@[simp] theorem getD_value (given fallback : α) : (value given).getD fallback = given := rfl

@[simp] theorem getD_nothing (fallback : α) : (nothing : Given α).getD fallback = fallback := rfl

@[simp] theorem toOption_value (given : α) : (value given).toOption = some given := rfl

@[simp] theorem toOption_nothing : (nothing : Given α).toOption = none := rfl

end Given

end RepoCatalog
