/-!
Environments: variables with the texts that they are set to. Setting a variable
again replaces its text.
-/

namespace VersionedStore

abbrev Environment := List (String × String)

namespace Environment

def get? (env : Environment) (name : String) : Option String :=
  (env.find? fun v => v.1 == name).map (·.2)

def unset (env : Environment) (name : String) : Environment :=
  env.filter fun v => v.1 != name

def set (env : Environment) (name value : String) : Environment :=
  (name, value) :: env.unset name

end Environment

end VersionedStore
