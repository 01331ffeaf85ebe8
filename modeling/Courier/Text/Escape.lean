/-!
# Escapes

The escapes inside the quoted texts of settings: a backslash and a letter, or a code point in four or
eight hexadecimal digits.
-/
namespace Courier.Text

def hexValue? (c : Char) : Option Nat :=
  if '0' ≤ c ∧ c ≤ '9' then some (c.toNat - '0'.toNat)
  else if 'a' ≤ c ∧ c ≤ 'f' then some (c.toNat - 'a'.toNat + 10)
  else if 'A' ≤ c ∧ c ≤ 'F' then some (c.toNat - 'A'.toNat + 10)
  else none

def hexNumber? (digits : List Char) : Option Nat :=
  digits.foldl (fun n c => do return (← n) * 16 + (← hexValue? c)) (some 0)

/-- The character of a code point in hexadecimal digits. Surrogates have none. -/
def coded? (digits : List Char) : Option Char := do
  let n ← hexNumber? digits
  if n.isValidChar then some (Char.ofNat n) else none

/-- The character that a letter after a backslash stands for. -/
def letterEscape? (c : Char) : Option Char :=
  match c with
  | 'b' => some '\x08'
  | 't' => some '\t'
  | 'n' => some '\n'
  | 'f' => some '\x0c'
  | 'r' => some '\r'
  | '"' => some '"'
  | '\\' => some '\\'
  | _ => none

/-- The character that an escape stands for, and what follows it. The backslash is passed already. -/
def escape? : List Char → Option (Char × List Char)
  | 'u' :: rest =>
    if 4 ≤ rest.length then (coded? (rest.take 4)).map (fun c => (c, rest.drop 4)) else none
  | 'U' :: rest =>
    if 8 ≤ rest.length then (coded? (rest.take 8)).map (fun c => (c, rest.drop 8)) else none
  | c :: rest => (letterEscape? c).map (fun c => (c, rest))
  | [] => none

/-- An escape takes up at least one character. -/
theorem length_escape? {cs rest : List Char} {c : Char} (h : escape? cs = some (c, rest)) :
    rest.length < cs.length := by
  unfold escape? at h
  split at h
  · split at h
    · obtain ⟨_, _, same⟩ := Option.map_eq_some_iff.mp h
      have : rest = List.drop 4 _ := (Prod.mk.inj same).2.symm
      subst this
      simp only [List.length_drop, List.length_cons]; omega
    · simp at h
  · split at h
    · obtain ⟨_, _, same⟩ := Option.map_eq_some_iff.mp h
      have : rest = List.drop 8 _ := (Prod.mk.inj same).2.symm
      subst this
      simp only [List.length_drop, List.length_cons]; omega
    · simp at h
  · obtain ⟨_, _, same⟩ := Option.map_eq_some_iff.mp h
    have : rest = _ := (Prod.mk.inj same).2.symm
    subst this
    simp
  · simp at h

end Courier.Text
