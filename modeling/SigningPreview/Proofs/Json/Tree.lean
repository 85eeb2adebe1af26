import SigningPreview.Proofs.Json.Lexical

/-! # Trees that are spelled are read

A tree is whole when it can be spelled to its end. The tokens of a whole tree assemble to that tree
wherever a value is due (`Whole.assembles`), and the text of its tokens is scanned to these tokens
(`Whole.scans`), so a compact text is read as the document it was made from (`ofText_compact`). Both
inductions are on the tree, with one lemma for the items of an array and one for the members of an
object. -/
namespace SigningPreview.Json.Node

open Token (Scans scan scan_nil spell stops_nil)

/-- A tree without gaps: every construct is closed, keys are strings, and the fractions of numerals
are made of decimal digits. -/
inductive Whole : Node → Prop where
  | null : Whole null
  | bool (b : Bool) : Whole (bool b)
  | num {n : Numeral} (digits : ∀ d ∈ n.fraction, d < 10) : Whole (num n)
  | str (content : Option String) : Whole (str content)
  | arr {items : List Node} (whole : ∀ item ∈ items, Whole item) : Whole (arr items true)
  | obj {members : List (Node × Node)} (keys : ∀ m ∈ members, ∃ content, m.1 = str content)
    (whole : ∀ m ∈ members, Whole m.2) : Whole (obj members true)

theorem whole_arr_iff {items : List Node} : (arr items true).Whole ↔ ∀ item ∈ items, item.Whole := by
  constructor
  · rintro ⟨⟩
    next whole => exact whole
  · exact .arr

theorem whole_obj_iff {members : List (Node × Node)} :
    (obj members true).Whole ↔ ∀ m ∈ members, (∃ content, m.1 = str content) ∧ m.2.Whole := by
  constructor
  · rintro ⟨⟩
    next keys whole => exact fun m hm => ⟨keys m hm, whole m hm⟩
  · intro h
    exact .obj (fun m hm => (h m hm).1) fun m hm => (h m hm).2

/-- What holds of all strings holds of the keys of an object. -/
theorem forall_keys {members : List (Node × Node)} {p : Node → Prop}
    (keys : ∀ m ∈ members, ∃ content, m.1 = str content) (h : ∀ content, p (str content)) :
    ∀ m ∈ members, p m.1 := by
  intro m hm
  obtain ⟨content, hc⟩ := keys m hm
  rw [hc]
  exact h content

/-! ## Assembly -/

/-- A value may begin here. -/
def Due.Open : Due → Prop
  | .after _ => False
  | _ => True

theorem Due.open_value : Due.value.Open := trivial

theorem Due.open_itemOrEnd : Due.itemOrEnd.Open := trivial

theorem Due.open_keyOrEnd : Due.keyOrEnd.Open := trivial

theorem assemble_step {due due' : Due} {frames frames' : List Frame} {token : Token}
    (halt : due.Open ∨ frames ≠ []) (h : step? due frames token = some (due', frames'))
    (tokens : List Token) :
    assemble (token :: tokens) due frames = assemble tokens due' frames' := by
  rw [assemble]
  · rw [h]
  · intro node hd hf
    rcases halt with ho | hne
    · rw [hd] at ho; exact ho
    · exact hne hf

/-- A token that begins a value is taken wherever a value is due. -/
theorem step?_of_begin {due : Due} (h : due.Open) {frames : List Frame} {token : Token}
    {next : Due × List Frame} (hb : begin? frames token = some next) :
    step? due frames token = some next := by
  unfold step?
  split
  · exact h.elim
  · cases hb
  · cases hb
  · exact hb

theorem assemble_leaf {due : Due} (h : due.Open) {token : Token} {v : Node}
    (hv : ofToken? token = some v) (tokens : List Token) (frames : List Frame) :
    assemble (token :: tokens) due frames = assemble tokens (.after v) frames := by
  refine assemble_step (.inl h) (step?_of_begin h ?_) tokens
  cases token <;> cases hv <;> rfl

theorem assemble_openArray {due : Due} (h : due.Open) (tokens : List Token) (frames : List Frame) :
    assemble (.openArray :: tokens) due frames = assemble tokens .itemOrEnd (.items [] :: frames) :=
  assemble_step (.inl h) (step?_of_begin h rfl) tokens

theorem assemble_openObject {due : Due} (h : due.Open) (tokens : List Token) (frames : List Frame) :
    assemble (.openObject :: tokens) due frames = assemble tokens .keyOrEnd (.key [] :: frames) :=
  assemble_step (.inl h) (step?_of_begin h rfl) tokens

theorem assemble_continue {v : Node} {frame : Frame} {frames frames' : List Frame} {due : Due}
    {token : Token} (h : continue? v (frame :: frames) token = some (due, frames'))
    (tokens : List Token) :
    assemble (token :: tokens) (.after v) (frame :: frames) = assemble tokens due frames' :=
  assemble_step (.inr (List.cons_ne_nil _ _)) (by rw [step?]; exact h) tokens

/-- The tokens of a tree are taken up as that tree wherever a value is due. -/
def Assembles (v : Node) : Prop :=
  ∀ {due : Due}, due.Open → ∀ (rest : List Token) (frames : List Frame),
    assemble (v.tokens ++ rest) due frames = assemble rest (.after v) frames

theorem assemble_items {items : List Node} (hne : items ≠ []) (h : ∀ item ∈ items, item.Assembles)
    {due : Due} (hd : due.Open) (before : List Node) (rest : List Token) (frames : List Frame) :
    assemble (itemTokens items ++ .closeArray :: rest) due (.items before :: frames) =
      assemble rest (.after (arr (before.reverse ++ items) true)) frames := by
  induction items generalizing due before with
  | nil => exact absurd rfl hne
  | cons item items ih =>
    obtain ⟨hitem, hitems⟩ := List.forall_mem_cons.1 h
    cases items with
    | nil =>
      rw [itemTokens, hitem hd, assemble_continue rfl, List.reverse_cons]
    | cons item' items =>
      rw [itemTokens, List.append_assoc, List.cons_append, hitem hd, assemble_continue rfl,
        ih (List.cons_ne_nil _ _) hitems Due.open_value, List.reverse_cons, List.append_assoc]
      · rfl
      · exact List.cons_ne_nil _ _

theorem assemble_members {members : List (Node × Node)} (hne : members ≠ [])
    (hk : ∀ m ∈ members, m.1.Assembles) (hv : ∀ m ∈ members, m.2.Assembles) {due : Due}
    (hd : due.Open) (before : List (Node × Node)) (rest : List Token) (frames : List Frame) :
    assemble (memberTokens members ++ .closeObject :: rest) due (.key before :: frames) =
      assemble rest (.after (obj (before.reverse ++ members) true)) frames := by
  induction members generalizing due before with
  | nil => exact absurd rfl hne
  | cons member members ih =>
    obtain ⟨key, value⟩ := member
    obtain ⟨hkey, hkeys⟩ := List.forall_mem_cons.1 hk
    obtain ⟨hvalue, hvalues⟩ := List.forall_mem_cons.1 hv
    cases members with
    | nil =>
      rw [memberTokens, List.append_assoc, List.cons_append, hkey hd, assemble_continue rfl,
        hvalue Due.open_value, assemble_continue rfl, List.reverse_cons]
    | cons member' members =>
      rw [memberTokens, List.append_assoc, List.append_assoc, List.cons_append, hkey hd,
        assemble_continue rfl, List.cons_append, hvalue Due.open_value, assemble_continue rfl,
        ih (List.cons_ne_nil _ _) hkeys hvalues Due.open_value, List.reverse_cons,
        List.append_assoc]
      · rfl
      · exact List.cons_ne_nil _ _

theorem assembles_str (content : Option String) : (str content).Assembles := by
  intro due hd rest frames
  exact assemble_leaf hd rfl rest frames

theorem Whole.assembles {v : Node} (h : v.Whole) : v.Assembles := by
  induction h with
  | null | bool | num =>
    intro due hd rest frames
    exact assemble_leaf hd rfl rest frames
  | str content => exact assembles_str content
  | @arr items _ ih =>
    intro due hd rest frames
    rw [tokens, List.append_assoc, List.cons_append, assemble_openArray hd]
    by_cases hne : items = []
    · rw [hne]
      exact assemble_step (.inl Due.open_itemOrEnd) rfl rest
    · exact assemble_items hne ih Due.open_itemOrEnd [] rest frames
  | @obj members keys _ ih =>
    intro due hd rest frames
    rw [tokens, List.append_assoc, List.cons_append, assemble_openObject hd]
    have hkeys : ∀ m ∈ members, m.1.Assembles := forall_keys keys assembles_str
    by_cases hne : members = []
    · rw [hne]
      exact assemble_step (.inl Due.open_keyOrEnd) rfl rest
    · exact assemble_members hne hkeys ih Due.open_keyOrEnd [] rest frames

/-! ## Scanning -/

theorem scans_items {items : List Node} (h : ∀ item ∈ items, Scans item.tokens) :
    Scans (itemTokens items) := by
  induction items with
  | nil => exact .nil
  | cons item items ih =>
    obtain ⟨hitem, hitems⟩ := List.forall_mem_cons.1 h
    cases items with
    | nil => exact hitem
    | cons item' items => exact hitem.append (by trivial) (ih hitems)

theorem scans_members {members : List (Node × Node)} (hk : ∀ m ∈ members, Scans m.1.tokens)
    (hv : ∀ m ∈ members, Scans m.2.tokens) : Scans (memberTokens members) := by
  induction members with
  | nil => exact .nil
  | cons member members ih =>
    obtain ⟨hkey, hkeys⟩ := List.forall_mem_cons.1 hk
    obtain ⟨hvalue, hvalues⟩ := List.forall_mem_cons.1 hv
    cases members with
    | nil => exact hkey.append (by trivial) hvalue
    | cons member' members =>
      rw [memberTokens, List.append_assoc]
      · exact hkey.append (by trivial) (hvalue.append (by trivial) (ih hkeys hvalues))
      · exact List.cons_ne_nil _ _

theorem scans_str (content : Option String) : Scans (str content).tokens :=
  Scans.nil.cons (by trivial)

theorem Whole.scans {v : Node} (h : v.Whole) : Scans v.tokens := by
  induction h with
  | null | bool => exact Scans.nil.cons (by trivial)
  | num digits => exact .num digits
  | str content => exact scans_str content
  | @arr items _ ih =>
    rw [tokens, if_pos rfl, List.cons_append]
    exact ((scans_items ih).append (by trivial) .nil).cons (by trivial)
  | @obj members keys _ ih =>
    have hkeys := forall_keys (p := fun v => Scans v.tokens) keys scans_str
    rw [tokens, if_pos rfl, List.cons_append]
    exact ((scans_members hkeys ih).append (by trivial) .nil).cons (by trivial)

/-! ## Documents -/

/-- A compact text is the document of its tree. -/
theorem ofText_compact {v : Node} (h : v.Whole) : Document.ofText v.compact = ⟨v, true⟩ := by
  have scanned : scan (v.tokens.flatMap spell) = v.tokens := by
    have := h.scans [] stops_nil
    rwa [List.append_nil, scan_nil, List.append_nil] at this
  have assembled : assemble v.tokens .value [] = (some v, []) := by
    have := h.assembles Due.open_value [] []
    rwa [List.append_nil, assemble] at this
  rw [Document.ofText, compact, String.toList_ofList, scanned, ofTokens, assembled]
  rfl

end SigningPreview.Json.Node
