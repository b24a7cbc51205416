namespace WireShadow.Data

/-- The fields of a record in their order, with what has been read of them: `absent` stands for a
field that is not given, and a field without it is required. -/
inductive Fields (ν ε : Type) : Type → Type 1
  | nil : Fields ν ε Unit
  | cons {α τ : Type} (name : String) (read : ν → Except ε α) (absent given : Option α)
      (rest : Fields ν ε τ) : Fields ν ε (α × τ)

namespace Fields

variable {ν ε α τ : Type}

def required (name : String) (read : ν → Except ε α) (rest : Fields ν ε τ) : Fields ν ε (α × τ) :=
  cons name read none none rest

def optional (name : String) (read : ν → Except ε α) (absent : α) (rest : Fields ν ε τ) :
    Fields ν ε (α × τ) :=
  cons name read (some absent) none rest

def count {τ : Type} : Fields ν ε τ → Nat
  | nil => 0
  | cons _ _ _ _ rest => rest.count + 1

def put (repeated : String → ε) (name : String) (value : ν) {τ : Type} :
    Fields ν ε τ → Option (Except ε (Fields ν ε τ))
  | nil => none
  | cons key read absent given rest =>
    if key = name then
      some <| match given with
        | some _ => .error (repeated name)
        | none => (read value).map fun a => cons key read absent (some a) rest
    else (rest.put repeated name value).map (·.map (cons key read absent given))

def finish (missing : String → ε) {τ : Type} : Fields ν ε τ → Except ε τ
  | nil => .ok ()
  | cons name _ absent given rest =>
    match given <|> absent with
    | none => .error (missing name)
    | some a => (rest.finish missing).map (a, ·)

/-- The record whose fields are given by their places, and the values left over. When the values
are used up, `exhausted` may object to their end, and `short` says which place has none. -/
def ofList (exhausted : Except ε Unit) (short : Nat → ε) (place : Nat) {τ : Type} :
    Fields ν ε τ → List ν → Except ε (τ × List ν)
  | nil, values => .ok ((), values)
  | cons _ read _ _ rest, value :: values => do
    let a ← read value
    let (t, left) ← rest.ofList exhausted short (place + 1) values
    return ((a, t), left)
  | cons _ _ absent _ rest, [] => do
    exhausted
    match absent with
    | none => throw (short place)
    | some a =>
      let (t, left) ← rest.ofList exhausted short (place + 1) []
      return ((a, t), left)

end Fields

end WireShadow.Data
