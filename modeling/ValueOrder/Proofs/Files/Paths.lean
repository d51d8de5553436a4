import ValueOrder.FileTree
import ValueOrder.Proofs.Text.Splitting

/-!
# Names and paths

The names in a file tree hold no separator, so a path that is put together from names
comes apart into them again. A path followed by names of directories that are really there
leads to what the names lead to.
-/

namespace ValueOrder

/-! ## Well-named trees -/

/-- A name that a directory can give to an entry. -/
structure IsName (name : FileName) : Prop where
  nonempty : name ≠ .empty
  notHere : name ≠ .here
  notUp : name ≠ .up
  noSlash : Path.slash ∉ name.bytes
  noNul : 0 ∉ name.bytes
  short : name.bytes.length ≤ FileTree.maxNameBytes

namespace Node

/-- In each directory the names are names, and they are distinct. -/
inductive WellNamed : Node → Prop where
  | file (content : ByteArray) : WellNamed (.file content)
  | link (target : Path) : WellNamed (.link target)
  | directory {entries : List (FileName × Node)} (names : ∀ e ∈ entries, IsName e.1)
      (distinct : (entries.map (·.1)).Nodup) (inside : ∀ e ∈ entries, WellNamed e.2) :
      WellNamed (.directory entries)

@[simp] theorem at?_root (root : Node) : root.at? [] = some root := rfl

theorem at?_append (root : Node) (place names : CanonicalName) :
    root.at? (place ++ names) = (root.at? place).bind (·.at? names) := by
  induction place generalizing root with
  | nil => rfl
  | cons name rest ih =>
    rw [List.cons_append, at?, at?]
    cases root.child? name with
    | none => rfl
    | some node => exact ih node

/-- An entry lies behind the name of its directory. -/
theorem at?_child {root : Node} {place : CanonicalName} {entries : List (FileName × Node)}
    (here : root.at? place = some (.directory entries)) (name : FileName) :
    root.at? (place ++ [name]) = entries.lookup name := by
  rw [at?_append, here, Option.bind_some, at?, child?]
  cases entries.lookup name <;> rfl

theorem mem_of_lookup {entries : List (FileName × Node)} {name : FileName} {node : Node}
    (found : entries.lookup name = some node) : (name, node) ∈ entries := by
  obtain ⟨before, after, rfl, _⟩ := List.lookup_eq_some_iff.mp found
  exact List.mem_append_right before (.head after)

theorem lookup_of_mem {entries : List (FileName × Node)} {name : FileName} {node : Node}
    (distinct : (entries.map (·.1)).Nodup) (mem : (name, node) ∈ entries) :
    entries.lookup name = some node := by
  induction entries with
  | nil => cases mem
  | cons e rest ih =>
    obtain ⟨key, value⟩ := e
    obtain ⟨fresh, others⟩ := List.nodup_cons.mp distinct
    rw [List.lookup_cons]
    rcases List.mem_cons.mp mem with here | later
    · cases here
      simp
    · have apart : name ≠ key := by
        rintro rfl
        exact fresh (List.mem_map.mpr ⟨_, later, rfl⟩)
      simp only [beq_eq_false_iff_ne.mpr apart]
      exact ih others later

/-- What lies behind a name lies behind an entry of that name. -/
theorem exists_entry_of_at? {node found : Node} {name : FileName} {names : List FileName}
    (at_ : node.at? (name :: names) = some found) :
    ∃ entries child, node = .directory entries ∧ (name, child) ∈ entries ∧
      child.at? names = some found := by
  rw [Node.at?] at at_
  cases node with
  | file content => cases at_
  | link target => cases at_
  | directory entries =>
    cases entry : entries.lookup name with
    | none => simp [child?, entry] at at_
    | some child =>
      simp only [child?, entry] at at_
      exact ⟨entries, child, rfl, mem_of_lookup entry, at_⟩

theorem WellNamed.at? {root node : Node} (wellNamed : root.WellNamed) {place : CanonicalName}
    (found : root.at? place = some node) : node.WellNamed := by
  induction place generalizing root with
  | nil =>
    cases found
    exact wellNamed
  | cons name rest ih =>
    obtain ⟨entries, child, rfl, entry, found⟩ := exists_entry_of_at? found
    cases wellNamed with
    | directory names distinct inside => exact ih (inside _ entry) found

end Node

/-! ## Following paths -/

namespace Path

theorem here_ne_empty : here ≠ empty := by decide

theorem up_ne_empty : up ≠ empty := by decide

theorem up_ne_here : up ≠ here := by decide

end Path

namespace FileTree

/-- Nothing keeps one from looking up any piece. -/
def unobstructed : Obstacle := fun _ _ => none

/-- The piece is a name that can be looked up in the directory. -/
structure IsLookedUp (obstacle : Obstacle) (place : CanonicalName) (piece : FileName) : Prop where
  nonempty : piece ≠ .empty
  free : obstacle place piece = none
  notHere : piece ≠ .here
  notUp : piece ≠ .up
  short : piece.bytes.length ≤ maxNameBytes

/-- The pieces lead from one place to another, with so many links that may be followed before
and so many that are left. -/
inductive Leads (root : Node) (obstacle : Obstacle) :
    Nat → CanonicalName → List FileName → Nat → CanonicalName → Prop where
  | done {links : Nat} {place : CanonicalName} : Leads root obstacle links place [] links place
  | empty {links left : Nat} {place target : CanonicalName} {pieces : List FileName}
      {entries : List (FileName × Node)} (at_ : root.at? place = some (.directory entries))
      (rest : Leads root obstacle links place pieces left target) :
      Leads root obstacle links place (.empty :: pieces) left target
  | here {links left : Nat} {place target : CanonicalName} {pieces : List FileName}
      {entries : List (FileName × Node)} (at_ : root.at? place = some (.directory entries))
      (free : obstacle place .here = none) (rest : Leads root obstacle links place pieces left target) :
      Leads root obstacle links place (.here :: pieces) left target
  | up {links left : Nat} {place target : CanonicalName} {pieces : List FileName}
      {entries : List (FileName × Node)} (at_ : root.at? place = some (.directory entries))
      (free : obstacle place .up = none)
      (rest : Leads root obstacle links place.dropLast pieces left target) :
      Leads root obstacle links place (.up :: pieces) left target
  | link {links left : Nat} {place target : CanonicalName} {piece : FileName}
      {pieces : List FileName} {entries : List (FileName × Node)} {aim : Path}
      (at_ : root.at? place = some (.directory entries)) (looked : IsLookedUp obstacle place piece)
      (entry : entries.lookup piece = some (.link aim))
      (rest : Leads root obstacle links (if aim.isRooted then [] else place) (aim.pieces ++ pieces)
        left target) :
      Leads root obstacle (links + 1) place (piece :: pieces) left target
  | entry {links left : Nat} {place target : CanonicalName} {piece : FileName}
      {pieces : List FileName} {entries : List (FileName × Node)} {node : Node}
      (at_ : root.at? place = some (.directory entries)) (looked : IsLookedUp obstacle place piece)
      (entry : entries.lookup piece = some node) (notLink : ∀ aim, node ≠ .link aim)
      (rest : Leads root obstacle links (place ++ [piece]) pieces left target) :
      Leads root obstacle links place (piece :: pieces) left target

section Following
variable {root : Node} {obstacle : Obstacle} {links left : Nat} {place target : CanonicalName}
  {pieces others : List FileName}

theorem Leads.follow (leads : Leads root obstacle links place pieces left target) :
    follow root obstacle links place pieces = .ok target := by
  induction leads with
  | done => rw [FileTree.follow]
  | empty at_ _ ih =>
    rw [FileTree.follow, at_]
    exact (if_pos rfl).trans ih
  | here at_ free _ ih =>
    rw [FileTree.follow, at_]
    simpa only [if_neg Path.here_ne_empty, free, if_true] using ih
  | up at_ free _ ih =>
    rw [FileTree.follow, at_]
    simpa only [if_neg Path.up_ne_empty, free, if_neg Path.up_ne_here, if_true] using ih
  | link at_ looked entry _ ih =>
    obtain ⟨nonempty, free, notHere, notUp, short⟩ := looked
    rw [FileTree.follow, at_]
    simpa [nonempty, free, notHere, notUp, Nat.not_lt_of_le short, entry] using ih
  | entry at_ looked entry notLink _ ih =>
    obtain ⟨nonempty, free, notHere, notUp, short⟩ := looked
    rw [FileTree.follow, at_]
    simpa [nonempty, free, notHere, notUp, Nat.not_lt_of_le short, entry, notLink] using ih

/-- A path is followed to a place exactly if its pieces lead there. -/
theorem follow_eq_ok_iff : follow root obstacle links place pieces = .ok target ↔
    ∃ left, Leads root obstacle links place pieces left target := by
  refine ⟨fun led => ?_, fun ⟨_, leads⟩ => leads.follow⟩
  fun_induction follow root obstacle links place pieces with
  | case1 links place =>
    cases led
    exact ⟨links, .done⟩
  | case2 links place rest entries at_ ih =>
    obtain ⟨left, leads⟩ := ih led
    exact ⟨left, .empty at_ leads⟩
  | case3 => cases led
  | case4 links place rest entries at_ nonempty free ih =>
    obtain ⟨left, leads⟩ := ih led
    exact ⟨left, .here at_ free leads⟩
  | case5 links place rest entries at_ nonempty free notHere ih =>
    obtain ⟨left, leads⟩ := ih led
    exact ⟨left, .up at_ free leads⟩
  | case6 => cases led
  | case7 => cases led
  | case8 => cases led
  | case9 place piece rest entries at_ nonempty free notHere notUp short aim entry links start ih =>
    obtain ⟨left, leads⟩ := ih led
    exact ⟨left, .link at_ ⟨nonempty, free, notHere, notUp, Nat.le_of_not_lt short⟩ entry leads⟩
  | case10 links place piece rest entries at_ nonempty free notHere notUp short node notLink entry ih =>
    obtain ⟨left, leads⟩ := ih led
    exact ⟨left,
      .entry at_ ⟨nonempty, free, notHere, notUp, Nat.le_of_not_lt short⟩ entry notLink leads⟩
  | case11 => cases led

theorem Leads.append {final : CanonicalName} {last : Nat}
    (first : Leads root obstacle links place pieces left target)
    (second : Leads root obstacle left target others last final) :
    Leads root obstacle links place (pieces ++ others) last final := by
  induction first with
  | done => exact second
  | empty at_ _ ih => exact .empty at_ (ih second)
  | here at_ free _ ih => exact .here at_ free (ih second)
  | up at_ free _ ih => exact .up at_ free (ih second)
  | link at_ looked entry _ ih =>
    refine .link at_ looked entry ?_
    rw [List.append_eq, ← List.append_assoc]
    exact ih second
  | entry at_ looked entry notLink _ ih => exact .entry at_ looked entry notLink (ih second)

/-- Pieces lead to the same place if other things are in the way, as long as none of them is in
the way to it. -/
theorem Leads.of_free {other : Obstacle}
    (dots : ∀ place, other place .here = none ∧ other place .up = none)
    (names : ∀ place piece entries, root.at? place = some (.directory entries) →
      (∃ node, root.at? (place ++ [piece]) = some node) → other place piece = none)
    (leads : Leads root obstacle links place pieces left target) :
    Leads root other links place pieces left target := by
  have clear {place : CanonicalName} {piece : FileName} {entries : List (FileName × Node)}
      {node : Node} (at_ : root.at? place = some (.directory entries))
      (looked : IsLookedUp obstacle place piece) (entry : entries.lookup piece = some node) :
      IsLookedUp other place piece :=
    { looked with free := names place piece entries at_ ⟨node, (Node.at?_child at_ piece).trans entry⟩ }
  induction leads with
  | done => exact .done
  | empty at_ _ ih => exact .empty at_ ih
  | here at_ _ _ ih => exact .here at_ (dots _).1 ih
  | up at_ _ _ ih => exact .up at_ (dots _).2 ih
  | link at_ looked entry _ ih => exact .link at_ (clear at_ looked entry) entry ih
  | entry at_ looked entry notLink _ ih =>
    exact .entry at_ (clear at_ looked entry) entry notLink ih

/-- Pieces that lead somewhere with others behind them lead somewhere without them. -/
theorem exists_leads_of_append (leads : Leads root obstacle links place (pieces ++ others) left target) :
    ∃ middle between, Leads root obstacle links place pieces between middle ∧
      Leads root obstacle between middle others left target := by
  generalize joined : pieces ++ others = all at leads
  induction leads generalizing pieces with
  | done =>
    obtain ⟨rfl, rfl⟩ := List.append_eq_nil_iff.mp joined
    exact ⟨_, _, .done, .done⟩
  | empty at_ rest ih =>
    rcases List.append_eq_cons_iff.mp joined with ⟨rfl, rfl⟩ | ⟨pieces, rfl, rfl⟩
    · exact ⟨_, _, .done, .empty at_ rest⟩
    · obtain ⟨middle, between, first, second⟩ := ih rfl
      exact ⟨middle, between, .empty at_ first, second⟩
  | here at_ free rest ih =>
    rcases List.append_eq_cons_iff.mp joined with ⟨rfl, rfl⟩ | ⟨pieces, rfl, rfl⟩
    · exact ⟨_, _, .done, .here at_ free rest⟩
    · obtain ⟨middle, between, first, second⟩ := ih rfl
      exact ⟨middle, between, .here at_ free first, second⟩
  | up at_ free rest ih =>
    rcases List.append_eq_cons_iff.mp joined with ⟨rfl, rfl⟩ | ⟨pieces, rfl, rfl⟩
    · exact ⟨_, _, .done, .up at_ free rest⟩
    · obtain ⟨middle, between, first, second⟩ := ih rfl
      exact ⟨middle, between, .up at_ free first, second⟩
  | link at_ looked entry rest ih =>
    rcases List.append_eq_cons_iff.mp joined with ⟨rfl, rfl⟩ | ⟨pieces, rfl, rfl⟩
    · exact ⟨_, _, .done, .link at_ looked entry rest⟩
    · obtain ⟨middle, between, first, second⟩ := ih (List.append_assoc _ _ _)
      exact ⟨middle, between, .link at_ looked entry first, second⟩
  | entry at_ looked entry notLink rest ih =>
    rcases List.append_eq_cons_iff.mp joined with ⟨rfl, rfl⟩ | ⟨pieces, rfl, rfl⟩
    · exact ⟨_, _, .done, .entry at_ looked entry notLink rest⟩
    · obtain ⟨middle, between, first, second⟩ := ih rfl
      exact ⟨middle, between, .entry at_ looked entry notLink first, second⟩

/-- Names lead from a directory to what they name in it, if that is no link. -/
theorem leads_names {names : List FileName} {node found : Node} (wellNamed : root.WellNamed)
    (at_ : root.at? place = some node) (named : node.at? names = some found)
    (notLink : ∀ aim, found ≠ .link aim) :
    Leads root unobstructed links place names links (place ++ names) := by
  induction names generalizing place node with
  | nil =>
    rw [List.append_nil]
    exact .done
  | cons name rest ih =>
    rw [Node.at?] at named
    cases wellNamed.at? at_ with
    | file content => cases named
    | link aim => cases named
    | @directory entries allNames distinct inside =>
      rw [Node.child?] at named
      cases entry : entries.lookup name with
      | none => simp [entry] at named
      | some child =>
        simp only [entry] at named
        have next : root.at? (place ++ [name]) = some child := (Node.at?_child at_ name).trans entry
        have isName := allNames _ (Node.mem_of_lookup entry)
        have looked : IsLookedUp unobstructed place name :=
          ⟨isName.nonempty, rfl, isName.notHere, isName.notUp, isName.short⟩
        -- A link on the way would be the end of the names, and there is none.
        have goesOn : ∀ aim, child ≠ .link aim := by
          rintro aim rfl
          cases rest with
          | nil =>
            cases named
            exact notLink aim rfl
          | cons _ _ => cases named
        rw [List.append_cons]
        exact .entry at_ looked entry goesOn (ih next named)

end Following

/-! ## Whole paths -/

section Paths
variable {t : FileTree} {path : Path} {obstacle : Obstacle} {place : CanonicalName}

theorem followPath_eq_ok_iff : t.followPath path obstacle = .ok place ↔
    0 ∉ path.bytes ∧ path ≠ .empty ∧ ∃ left,
      Leads t.root obstacle maxLinks (if path.isRooted then [] else t.workDir) path.pieces left place := by
  rw [followPath, ← follow_eq_ok_iff]
  split_ifs with nul empty <;> simp [*]

/-- A path that leads somewhere leads there if nothing is in the way. -/
theorem followPath_unobstructed (led : t.followPath path obstacle = .ok place) :
    t.followPath path unobstructed = .ok place := by
  obtain ⟨clean, nonempty, left, leads⟩ := followPath_eq_ok_iff.mp led
  exact followPath_eq_ok_iff.mpr ⟨clean, nonempty, left,
    leads.of_free (fun _ => ⟨rfl, rfl⟩) fun _ _ _ _ _ => rfl⟩

/-- What is not in the way to what is there does not keep a path from leading there. -/
theorem followPath_of_unobstructed {obstacle : Obstacle}
    (dots : ∀ place, obstacle place .here = none ∧ obstacle place .up = none)
    (names : ∀ place piece entries, t.root.at? place = some (.directory entries) →
      (∃ node, t.root.at? (place ++ [piece]) = some node) → obstacle place piece = none)
    (led : t.followPath path unobstructed = .ok place) : t.followPath path obstacle = .ok place := by
  obtain ⟨clean, nonempty, left, leads⟩ := followPath_eq_ok_iff.mp led
  exact followPath_eq_ok_iff.mpr ⟨clean, nonempty, left, leads.of_free dots names⟩

theorem resolve_eq_ok_iff : t.resolve path = .ok place ↔
    path.bytes.length ≤ maxPathBytes ∧ t.followPath path t.lookingUp = .ok place := by
  unfold resolve
  split_ifs with long
  · simp [Nat.not_le_of_lt long]
  · simp [Nat.le_of_not_lt long]

/-- Where all directories may be searched, only the length of a path can be in the way. -/
theorem resolve_of_unobstructed (search : ∀ name, t.maySearch name)
    (short : path.bytes.length ≤ maxPathBytes) (led : t.followPath path unobstructed = .ok place) :
    t.resolve path = .ok place := by
  have free : t.lookingUp = unobstructed := by
    funext place piece
    exact if_pos (search place)
  exact resolve_eq_ok_iff.mpr ⟨short, free ▸ led⟩

theorem readText_of_resolve {text : String} (resolved : t.resolve path = .ok place)
    (readable : t.mayRead place) (found : t.root.at? place = some (.file text.toByteArray)) :
    t.readText path = .ok text := by
  have decoded : String.fromUTF8? text.toByteArray = some text := by
    rw [String.fromUTF8?, dif_pos text.isValidUTF8]
    rfl
  simp [readText, resolved, found, readable, decoded, bind, Except.bind]

/-- However a path is resolved, it leads to one place. -/
theorem eq_of_resolve_of_realPath {name : CanonicalName} (resolved : t.resolve path = .ok place)
    (real : t.realPath path = .ok name) : name = place := by
  have one := followPath_unobstructed (resolve_eq_ok_iff.mp resolved).2
  have other := followPath_unobstructed real
  exact Except.ok.inj (other.symm.trans one)

end Paths

end FileTree

/-! ## Paths that are put together -/

namespace Path

section Joined
variable {p : Path} {name : FileName} {names : List FileName}

/-- There is nothing but a separator, if anything, between a path and a name behind it. -/
theorem bytes_push (p : Path) (name : FileName) :
    ∃ gap, (gap = [] ∨ gap = [slash]) ∧ (p.push name).bytes = p.bytes ++ gap ++ name.bytes := by
  unfold push
  split
  · exact ⟨[], .inl rfl, by simp⟩
  · exact ⟨[slash], .inr rfl, by simp⟩

theorem push_ne_empty (nonempty : p ≠ .empty) : p.push name ≠ .empty := by
  obtain ⟨gap, _, joined⟩ := bytes_push p name
  intro same
  rw [same] at joined
  have front : p.bytes = [] := (List.append_eq_nil_iff.mp (List.append_eq_nil_iff.mp joined.symm).1).1
  exact nonempty (congrArg mk front)

theorem isRooted_push (nonempty : p ≠ .empty) : (p.push name).isRooted = p.isRooted := by
  obtain ⟨gap, _, joined⟩ := bytes_push p name
  obtain ⟨first, rest, front⟩ := List.exists_cons_of_ne_nil fun none => nonempty (congrArg mk none)
  rw [isRooted, isRooted, joined, front]
  rfl

theorem zero_notMem_push (clean : 0 ∉ p.bytes) (inside : 0 ∉ name.bytes) : 0 ∉ (p.push name).bytes := by
  obtain ⟨gap, gapped, joined⟩ := bytes_push p name
  have noGap : 0 ∉ gap := by rcases gapped with rfl | rfl <;> decide
  rw [joined, List.mem_append, List.mem_append, not_or, not_or]
  exact ⟨⟨clean, noGap⟩, inside⟩

/-- A path with a name behind it comes apart into its pieces and the name, if the separator at
its end is left out. -/
theorem pieces_push (p : Path) (noSlash : slash ∉ name.bytes) : ∃ front,
    (p.pieces = front ∨ p.pieces = front ++ [.empty]) ∧ (p.push name).pieces = front ++ [name] := by
  have single : Text.piecesOf slash name.bytes = [name.bytes] := Text.piecesOf_of_notMem noSlash
  unfold push
  split_ifs with closed
  · rcases List.eq_nil_or_concat p.bytes with none | ⟨front, last, ends⟩
    · refine ⟨[], .inr ?_, ?_⟩
      · rw [pieces, none]
        rfl
      · rw [pieces, none, List.nil_append, single]
        rfl
    · rw [List.concat_eq_append] at ends
      obtain rfl : last = slash := by simpa [ends] using closed
      refine ⟨(Text.piecesOf slash front).map mk, .inr ?_, ?_⟩
      · rw [pieces, ends, Text.piecesOf_append, List.map_append]
        rfl
      · rw [pieces, ends, List.append_assoc, List.singleton_append, Text.piecesOf_append,
          List.map_append, single]
        rfl
  · refine ⟨p.pieces, .inl rfl, ?_⟩
    rw [pieces, pieces, Text.piecesOf_append, List.map_append, single]
    rfl

theorem pieces_join (p : Path) (nonempty : name ≠ .empty)
    (names_ : ∀ n ∈ name :: names, IsName n) : ∃ front,
    (p.pieces = front ∨ p.pieces = front ++ [.empty]) ∧
      (p.join (name :: names)).pieces = front ++ name :: names := by
  induction names generalizing p name with
  | nil => exact pieces_push p (names_ name (.head [])).noSlash
  | cons next names ih =>
    obtain ⟨first, others⟩ := List.forall_mem_cons.mp names_
    obtain ⟨front, ends, pushed⟩ := pieces_push p first.noSlash
    obtain ⟨longer, closed, joined⟩ := ih (p.push name) (others next (.head names)).nonempty others
    refine ⟨front, ends, ?_⟩
    -- The piece at the end is a name, so no separator stands behind it.
    have same : longer = front ++ [name] := by
      rcases closed with same | same
      · exact same.symm.trans pushed
      · have last := congrArg List.getLast? (same.symm.trans pushed)
        simp only [List.getLast?_append, List.getLast?_singleton, Option.some_or] at last
        exact absurd (Option.some.inj last).symm nonempty
    exact joined.trans (by rw [same, List.append_assoc, List.singleton_append])

/-- If no separator stands at the end of a path, names behind it come behind its pieces. -/
theorem pieces_join_of_open (opened : p.pieces.getLast? ≠ some .empty)
    (names_ : ∀ n ∈ names, IsName n) : (p.join names).pieces = p.pieces ++ names := by
  cases names with
  | nil => exact (List.append_nil _).symm
  | cons name names =>
    obtain ⟨front, ends, joined⟩ := pieces_join p (names_ name (.head names)).nonempty names_
    rcases ends with same | closed
    · rw [joined, same]
    · exact absurd (closed ▸ List.getLast?_concat) opened

end Joined

end Path

/-! ## Names in the working directory -/

section Names
variable {name : FileName}

theorem IsName.pieces (isName : IsName name) : name.pieces = [name] := by
  rw [Path.pieces, Text.piecesOf_of_notMem isName.noSlash]
  rfl

theorem IsName.not_isRooted (isName : IsName name) : name.isRooted = false := by
  rw [Path.isRooted, decide_eq_false_iff_not]
  exact fun first => isName.noSlash (List.mem_of_mem_head? first)

namespace FileTree

variable {t : FileTree} {obstacle : Obstacle} {entries : List (FileName × Node)} {node : Node}

theorem followPath_name (isName : IsName name) (obstacle : Obstacle) :
    t.followPath name obstacle = follow t.root obstacle maxLinks t.workDir [name] := by
  rw [followPath, if_neg isName.noNul, if_neg isName.nonempty, isName.not_isRooted, isName.pieces]
  rfl

/-- The name of an entry leads to it. -/
theorem followPath_entry (isName : IsName name) (at_ : t.root.at? t.workDir = some (.directory entries))
    (free : obstacle t.workDir name = none) (entry : entries.lookup name = some node)
    (notLink : ∀ aim, node ≠ .link aim) :
    t.followPath name obstacle = .ok (t.workDir ++ [name]) := by
  rw [followPath_name isName]
  obtain ⟨nonempty, notHere, notUp, _, _, short⟩ := isName
  exact (Leads.entry at_ ⟨nonempty, free, notHere, notUp, short⟩ entry notLink .done).follow

theorem resolve_entry (isName : IsName name) (at_ : t.root.at? t.workDir = some (.directory entries))
    (search : t.maySearch t.workDir) (entry : entries.lookup name = some node)
    (notLink : ∀ aim, node ≠ .link aim) : t.resolve name = .ok (t.workDir ++ [name]) := by
  have length : name.bytes.length ≤ maxPathBytes := Nat.le_trans isName.short (by decide)
  exact resolve_eq_ok_iff.mpr ⟨length, followPath_entry isName at_ (if_pos search) entry notLink⟩

/-- The name of a link leads to the entry that the link names. -/
theorem resolve_link {aim : FileName} (isName : IsName name) (isAim : IsName aim)
    (at_ : t.root.at? t.workDir = some (.directory entries)) (search : t.maySearch t.workDir)
    (link : entries.lookup name = some (.link aim)) (entry : entries.lookup aim = some node)
    (notLink : ∀ aim, node ≠ .link aim) : t.resolve name = .ok (t.workDir ++ [aim]) := by
  have length : name.bytes.length ≤ maxPathBytes := Nat.le_trans isName.short (by decide)
  have free : t.lookingUp t.workDir name = none := if_pos search
  have looked : IsLookedUp t.lookingUp t.workDir name :=
    ⟨isName.nonempty, free, isName.notHere, isName.notUp, isName.short⟩
  have lookedAim : IsLookedUp t.lookingUp t.workDir aim :=
    ⟨isAim.nonempty, free, isAim.notHere, isAim.notUp, isAim.short⟩
  have leads : Leads t.root t.lookingUp 39 t.workDir [aim] 39 (t.workDir ++ [aim]) :=
    .entry at_ lookedAim entry notLink .done
  refine resolve_eq_ok_iff.mpr ⟨length, ?_⟩
  rw [followPath_name isName]
  refine (@Leads.link _ _ 39 39 _ _ _ _ _ _ at_ looked link ?_).follow
  rw [isAim.not_isRooted, isAim.pieces]
  exact leads

theorem resolve_absent (isName : IsName name) (at_ : t.root.at? t.workDir = some (.directory entries))
    (search : t.maySearch t.workDir) (absent : entries.lookup name = none) :
    t.resolve name = .error .notFound := by
  have length : ¬ maxPathBytes < name.bytes.length :=
    Nat.not_lt_of_le (Nat.le_trans isName.short (by decide))
  have free : t.lookingUp t.workDir name = none := if_pos search
  rw [resolve, if_neg length, followPath_name isName, follow, at_]
  simp [isName.nonempty, isName.notHere, isName.notUp, Nat.not_lt_of_le isName.short, free, absent]

/-- The canonical name of an entry is to be had if the way to it can be searched and is not too
long. -/
theorem realPath_entry (isName : IsName name) (at_ : t.root.at? t.workDir = some (.directory entries))
    (search : ∀ n ≤ t.workDir.length, t.maySearch (t.workDir.take n))
    (short : CanonicalName.pathLength (t.workDir ++ [name]) ≤ maxPathBytes)
    (entry : entries.lookup name = some node) (notLink : ∀ aim, node ≠ .link aim) :
    t.realPath name = .ok (t.workDir ++ [name]) := by
  refine followPath_entry isName at_ ?_ entry notLink
  rw [lookingUpFromRoot, if_neg (not_or.mpr ⟨isName.notHere, isName.notUp⟩),
    if_neg (Nat.not_lt_of_le short), if_pos search]

end FileTree

end Names

end ValueOrder
