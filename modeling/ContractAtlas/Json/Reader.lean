import ContractAtlas.Json.Fault

namespace ContractAtlas.Json

@[ext] structure Reader (α : Type) where
  run : List Char → Except Fault (α × List Char)

def cut {α : Type} (e : EndOfText) : Except Fault α := .error (.endOfText e)

def malformed {α : Type} (m : Malformation) : Except Fault α := .error (.malformed m)

namespace Reader

variable {α β : Type}

instance : Monad Reader where
  pure a := ⟨fun s => .ok (a, s)⟩
  bind r f := ⟨fun s =>
    match r.run s with
    | .ok (a, rest) => (f a).run rest
    | .error e => .error e⟩

def fail (e : Fault) : Reader α := ⟨fun _ => .error e⟩

@[simp] theorem run_pure (a : α) (s : List Char) : (pure a : Reader α).run s = .ok (a, s) := rfl

theorem run_bind (r : Reader α) (f : α → Reader β) (s : List Char) :
    (r >>= f).run s = match r.run s with
      | .ok (a, rest) => (f a).run rest
      | .error e => .error e := rfl

theorem run_map (f : α → β) (r : Reader α) (s : List Char) :
    (f <$> r).run s = (r.run s).map fun p => (f p.1, p.2) := by
  change (r >>= fun a => pure (f a)).run s = _
  rw [run_bind]
  cases r.run s <;> rfl

theorem run_bind_of_ok {r : Reader α} {s rest : List Char} {a : α} (h : r.run s = .ok (a, rest))
    (f : α → Reader β) : (r >>= f).run s = (f a).run rest := by
  rw [run_bind, h]

instance : LawfulMonad Reader := LawfulMonad.mk' Reader
  (fun r => by
    apply Reader.ext
    funext s
    rw [run_map]
    cases r.run s <;> rfl)
  (fun _ _ => rfl)
  (fun r f g => by
    apply Reader.ext
    funext s
    change (r >>= f >>= g).run s = (r >>= fun a => f a >>= g).run s
    simp only [run_bind]
    cases r.run s <;> rfl)

end Reader

def isSpace (c : Char) : Bool := c == ' ' || c == '\n' || c == '\t' || c == '\r'

def skipSpace (s : List Char) : List Char := s.dropWhile isSpace

theorem skipSpace_cons (c : Char) (s : List Char) :
    skipSpace (c :: s) = if isSpace c then skipSpace s else c :: s := by
  simp [skipSpace, List.dropWhile_cons]

def word : List Char → Reader Unit
  | [] => pure ()
  | c :: w => ⟨fun s =>
    match s with
    | [] => cut .inValue
    | d :: s => if c = d then (word w).run s else malformed .expectedWord⟩

theorem run_word_append (w rest : List Char) : (word w).run (w ++ rest) = .ok ((), rest) := by
  induction w with
  | nil => rfl
  | cons c w ih => simp [word, ih]

def constant {α : Type} (w : List Char) (a : α) : Reader α := do
  word w
  return a

end ContractAtlas.Json
