import ValueOrder.Json.Text

/-!
# Between the brackets

What stands between the elements of an array and the members of an object:
blanks, commas, colons and the closing bracket. The loops over elements and
members are shared by all readers of such sequences.
-/

namespace ValueOrder.Json

/-- What a sequence goes on with: its closing bracket, already taken, or the next
entry. -/
inductive Next (s : List Char) where
  | close (rest : Read Unit s)
  | entry (rest : Rest s)

theorem length_le_of_skipBlanks {s t : List Char} (h : skipBlanks s = t) : t.length ≤ s.length :=
  h ▸ length_skipBlanks_le s

theorem length_lt_of_skipBlanks {s t : List Char} {c : Char} (h : skipBlanks s = c :: t) :
    t.length < s.length :=
  length_le_of_skipBlanks h

theorem length_cons_le_of_skipBlanks {s t : List Char} {c : Char} (h : skipBlanks s = c :: t) :
    (c :: t).length ≤ s.length :=
  length_le_of_skipBlanks h

theorem length_tail_le_of_skipBlanks {s t : List Char} {c : Char} (h : skipBlanks s = c :: t) :
    t.length ≤ s.length :=
  Nat.le_of_lt (length_lt_of_skipBlanks h)

/-- Goes to the next element of an array: past a comma unless it is the first, or
past the closing bracket. -/
def nextElement (isFirst : Bool) (s : List Char) : Except (Fault Reason) (Next s) :=
  match h : skipBlanks s with
  | [] => .error (.before .endInList [])
  | c :: rest =>
    if c = ']' then .ok (.close ⟨(), rest, length_lt_of_skipBlanks h⟩)
    else if isFirst then .ok (.entry ⟨c :: rest, length_cons_le_of_skipBlanks h⟩)
    else if c = ',' then
      match h' : skipBlanks rest with
      | [] => .error (.before .endInValue [])
      | d :: after =>
        if d = ']' then .error (.counting .trailingComma (d :: after))
        else .ok (.entry ⟨d :: after,
          Nat.le_trans (length_cons_le_of_skipBlanks h') (length_tail_le_of_skipBlanks h)⟩)
    else .error (.counting .expectedListEnd (c :: rest))

/-- Goes to the key of the next member of an object, past its opening quote, or
past the closing brace. -/
def nextMember (isFirst : Bool) (s : List Char) : Except (Fault Reason) (Next s) :=
  match h : skipBlanks s with
  | [] => .error (.before .endInObject [])
  | c :: rest =>
    if c = '\x7d' then .ok (.close ⟨(), rest, length_lt_of_skipBlanks h⟩)
    else if isFirst then
      if c = '"' then .ok (.entry ⟨rest, length_tail_le_of_skipBlanks h⟩)
      else .error (.counting .keyNotText (c :: rest))
    else if c = ',' then
      match h' : skipBlanks rest with
      | [] => .error (.before .endInValue [])
      | d :: after =>
        if d = '\x7d' then .error (.counting .trailingComma (d :: after))
        else if d = '"' then .ok (.entry ⟨after,
          Nat.le_trans (length_tail_le_of_skipBlanks h') (length_tail_le_of_skipBlanks h)⟩)
        else .error (.counting .keyNotText (d :: after))
    else .error (.counting .expectedObjectEnd (c :: rest))

def takeColon (s : List Char) : Step (Fault Reason) Unit s :=
  match h : skipBlanks s with
  | [] => .error (.before .endInObject [])
  | c :: rest =>
    if c = ':' then .ok ⟨(), rest, length_lt_of_skipBlanks h⟩
    else .error (.counting .expectedColon (c :: rest))

/-- Takes the elements of an array and its closing bracket. -/
def takeElements {ε α : Type} (lift : Fault Reason → ε) (item : (t : List Char) → Step ε α t)
    (isFirst : Bool) (s : List Char) : Step ε (List α) s :=
  match nextElement isFirst s with
  | .error fault => .error (lift fault)
  | .ok (.close rest) => .ok (rest.map fun _ => [])
  | .ok (.entry ⟨t, h⟩) =>
    match item t with
    | .error fault => .error fault
    | .ok x =>
      (takeElements lift item false x.rest).map fun r =>
        (r.map (x.value :: ·)).from (Nat.le_trans (Nat.le_of_lt x.shorter) h)
termination_by s.length
decreasing_by exact Nat.lt_of_lt_of_le x.shorter h

/-- Takes the members of an object and its closing brace. A member is read from
behind the opening quote of its key, and it may depend on what came before it. -/
def takeMembers {ε σ : Type} (lift : Fault Reason → ε) (member : σ → (t : List Char) → Step ε σ t)
    (isFirst : Bool) (state : σ) (s : List Char) : Step ε σ s :=
  match nextMember isFirst s with
  | .error fault => .error (lift fault)
  | .ok (.close rest) => .ok (rest.map fun _ => state)
  | .ok (.entry ⟨t, h⟩) =>
    match member state t with
    | .error fault => .error fault
    | .ok x =>
      (takeMembers lift member false x.value x.rest).map fun r =>
        r.from (Nat.le_trans (Nat.le_of_lt x.shorter) h)
termination_by s.length
decreasing_by exact Nat.lt_of_lt_of_le x.shorter h

end ValueOrder.Json
