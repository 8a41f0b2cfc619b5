import Mathlib

namespace SimLLM

inductive ErrorKind where
  | valueError | typeError | keyError | indexError | runtimeError | assertionError | lifecycleError
  | packetPortError | stopIteration
  deriving DecidableEq, Repr

/-- One raised exception: its class, its message with every substituted value
written as a brace pair, and the substituted values in order. -/
structure PyError where
  kind : ErrorKind
  template : String
  args : List String := []
  deriving DecidableEq, Repr

variable (template : String) (args : List String := [])

def valueError : PyError := ⟨.valueError, template, args⟩

def typeError : PyError := ⟨.typeError, template, args⟩

def keyError : PyError := ⟨.keyError, template, args⟩

def indexError : PyError := ⟨.indexError, template, args⟩

def runtimeError : PyError := ⟨.runtimeError, template, args⟩

def assertionError : PyError := ⟨.assertionError, template, args⟩

def lifecycleError : PyError := ⟨.lifecycleError, template, args⟩

def packetPortError : PyError := ⟨.packetPortError, template, args⟩

def stopIteration : PyError := ⟨.stopIteration, template, args⟩

def require (condition : Bool) (error : PyError) : Except PyError Unit :=
  if condition then .ok () else .error error

@[simp] theorem require_eq_ok {condition : Bool} {error : PyError} {u : Unit} :
    require condition error = .ok u ↔ condition = true := by
  cases condition <;> simp [require]

end SimLLM
