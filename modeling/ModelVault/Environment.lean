/-! The variables that a program finds around it. -/

namespace ModelVault

/-- The variables by name. -/
abbrev Environment := List (String × String)

/-- The value of a variable; of two of one name the last counts. -/
def Environment.lookup? (name : String) (environment : Environment) : Option String :=
  (environment.reverse.find? (·.1 = name)).map (·.2)

end ModelVault
