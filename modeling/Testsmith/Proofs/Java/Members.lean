/-
# The members of a type and the rest of its file

What a file declares apart from the members of its first type is a shell with a gap in the place of
each member (`fileShell`). The name of the type, its annotations and the types above it can be read
off the shell, and what is looked for in the whole file is found in the shell or in a member
(`any_fileShell`). Into the gaps any other members can be put, as many as there were
(`exists_refilled`).

Key definitions: `Node.isMember`, `Node.shell`, `fileShell`, `declaredMembers`.
Key theorems: `primaryType?_fileShell`, `any_fileShell`, `exists_refilled`.
-/
import Testsmith.Java.Facts

namespace Testsmith.Java

/-! ### Gaps in the place of members -/

namespace Node

/-- The node is a member where it stands in a body: a construct that is neither a constant of an
enum nor the part of an enum that its members are in. -/
def isMember : Node → Bool
  | leaf .. => false
  | branch k _ => k != .enumConstant && k != .enumBodyDeclarations

/-- What stands in the place of a member. -/
def gap : Node := branch .error []

def vacated (n : Node) : Node := if n.isMember then gap else n

/-- A node in a body, with gaps in it or a gap in its place. -/
def cleared : Node → Node
  | branch .enumBodyDeclarations ns => branch .enumBodyDeclarations (ns.map vacated)
  | n => n.vacated

/-- What a node in a body adds to the members. -/
def held (n : Node) : List Node := if n.isKind .enumBodyDeclarations then n.children else [n]

def isBody (n : Node) : Bool :=
  n.isKind .classBody || n.isKind .interfaceBody || n.isKind .annotationBody || n.isKind .enumBody

/-- A body with gaps. -/
def emptied : Node → Node
  | branch k ns => branch k (ns.map cleared)
  | n => n

end Node

/-- The list with the first member that has the property changed. -/
def mapFirst {α : Type} (p : α → Bool) (f : α → α) : List α → List α
  | [] => []
  | a :: as => if p a then f a :: as else a :: mapFirst p f as

namespace Node

/-- A declaration with gaps in the place of its members. -/
def shell : Node → Node
  | branch k ns => branch k (mapFirst isBody emptied ns)
  | n => n

/-- The node declares a type. -/
def declares (n : Node) : Bool := n.declKind?.isSome

/-- The members in a body, without the signs and comments between them. -/
def bodyMembers (n : Node) : List Node := (n.children.flatMap held).filter isMember

/-- The members of a declaration, without the signs and comments between them. -/
def declared (n : Node) : List Node := n.members.filter isMember

end Node

/-- A file with gaps in the place of the members of its first type. -/
def fileShell : Node → Node
  | .branch k ns => .branch k (mapFirst Node.declares Node.shell ns)
  | n => n

/-- The members of the first type of a file. -/
def declaredMembers (root : Node) : List Node :=
  ((primaryType? root).map fun t => t.2.declared).getD []

open Node

/-! ### The first of a list -/

section
variable {α : Type} {p : α → Bool} {f : α → α}

theorem find?_mapFirst_of_not {q : α → Bool}
    (h : ∀ a, p a = true → q a = false ∧ q (f a) = false) :
    ∀ as : List α, (mapFirst p f as).find? q = as.find? q
  | [] => rfl
  | a :: as => by
    rw [mapFirst]
    by_cases hp : p a = true
    · obtain ⟨ha, hf⟩ := h a hp
      rw [if_pos hp, List.find?_cons_of_neg (by simp [hf]), List.find?_cons_of_neg (by simp [ha])]
    · rw [if_neg hp, List.find?_cons, List.find?_cons, find?_mapFirst_of_not h as]

theorem find?_mapFirst (h : ∀ a, p a = true → p (f a) = true) :
    ∀ as : List α, (mapFirst p f as).find? p = (as.find? p).map f
  | [] => rfl
  | a :: as => by
    rw [mapFirst]
    by_cases hp : p a = true
    · rw [if_pos hp, List.find?_cons_of_pos (h a hp), List.find?_cons_of_pos hp, Option.map_some]
    · rw [if_neg hp, List.find?_cons_of_neg hp, List.find?_cons_of_neg hp, find?_mapFirst h as]

/-- The first member with the property can be replaced, and what else there is stays. -/
theorem exists_replaced {a b : α} (hb : p b = true) (hf : f b = f a) :
    ∀ as : List α, as.find? p = some a →
      ∃ bs : List α, bs.find? p = some b ∧ mapFirst p f bs = mapFirst p f as
  | [], h => by cases h
  | c :: as, h => by
    by_cases hc : p c = true
    · rw [List.find?_cons_of_pos hc, Option.some.injEq] at h
      refine ⟨b :: as, List.find?_cons_of_pos hb, ?_⟩
      rw [mapFirst, mapFirst, if_pos hb, if_pos hc, hf, h]
    · rw [List.find?_cons_of_neg hc] at h
      obtain ⟨bs, hfind, hsame⟩ := exists_replaced hb hf as h
      refine ⟨c :: bs, by rw [List.find?_cons_of_neg hc, hfind], ?_⟩
      rw [mapFirst, mapFirst, if_neg hc, if_neg hc, hsame]

end

/-! ### What a shell shows -/

theorem isBody_emptied : ∀ n : Node, (emptied n).isBody = n.isBody
  | .leaf .. => rfl
  | .branch .. => rfl

theorem declKind?_shell : ∀ n : Node, (shell n).declKind? = n.declKind?
  | .leaf .. => rfl
  | .branch .. => rfl

theorem declares_shell (n : Node) : (shell n).declares = n.declares := by
  rw [declares, declKind?_shell, declares]

theorem body?_eq (n : Node) : n.body? = n.children.find? isBody := rfl

/-- What is not in the body is in the shell. -/
theorem child?_shell {k : Kind} (hk : ∀ ns, (branch k ns).isBody = false) (n : Node) :
    (shell n).child? k = n.child? k := by
  cases n with
  | leaf => rfl
  | branch k' ns =>
    refine find?_mapFirst_of_not (fun a ha => ?_) ns
    cases a with
    | leaf => exact ⟨rfl, rfl⟩
    | branch ka as =>
      have hne : (k == ka) = false := by
        rw [beq_eq_false_iff_ne]
        rintro rfl
        rw [hk as] at ha
        cases ha
      exact ⟨hne, hne⟩

theorem annotationNames_shell (n : Node) : (shell n).annotationNames = n.annotationNames := by
  rw [annotationNames, annotationNames, modifierNodes, modifierNodes, child?_shell fun _ => rfl]

theorem supertypes_shell (n : Node) : supertypes (shell n) = supertypes n := by
  simp only [supertypes, List.flatMap_cons, List.flatMap_nil]
  rw [child?_shell fun _ => rfl, child?_shell fun _ => rfl, child?_shell fun _ => rfl]

/-- The first type of a file is the first node that declares one. -/
theorem primaryType?_eq_some_iff {root decl : Node} {kind : DeclKind} :
    primaryType? root = some (kind, decl) ↔
      root.children.find? declares = some decl ∧ decl.declKind? = some kind := by
  rw [primaryType?]
  induction root.children with
  | nil => simp
  | cons n ns ih =>
    cases hn : n.declKind? with
    | none =>
      rw [List.findSome?_cons_of_isNone (by simp [hn]), ih,
        List.find?_cons_of_neg (by simp [declares, hn])]
    | some k =>
      rw [List.findSome?_cons_of_isSome (by simp [hn]),
        List.find?_cons_of_pos (by simp [declares, hn]), hn, Option.map_some, Option.some.injEq,
        Prod.mk.injEq, Option.some.injEq]
      constructor
      · rintro ⟨rfl, rfl⟩
        exact ⟨rfl, hn⟩
      · rintro ⟨rfl, hk⟩
        rw [hn, Option.some.injEq] at hk
        exact ⟨hk, rfl⟩

theorem primaryType?_eq_none_iff {root : Node} :
    primaryType? root = none ↔ root.children.find? declares = none := by
  rw [primaryType?, List.findSome?_eq_none_iff, List.find?_eq_none]
  exact forall_congr' fun n => by simp [declares]

theorem children_fileShell (root : Node) :
    (fileShell root).children = mapFirst declares shell root.children := by
  cases root <;> rfl

/-- The first type of the shell of a file is the shell of its first type. -/
theorem primaryType?_fileShell (root : Node) :
    primaryType? (fileShell root) = (primaryType? root).map fun t => (t.1, t.2.shell) := by
  have hfind : (fileShell root).children.find? declares =
      (root.children.find? declares).map shell := by
    rw [children_fileShell]
    exact find?_mapFirst (fun a ha => (declares_shell a).trans ha) _
  cases h : primaryType? root with
  | none =>
    rw [primaryType?_eq_none_iff] at h
    rw [Option.map_none, primaryType?_eq_none_iff, hfind, h, Option.map_none]
  | some t =>
    obtain ⟨kind, decl⟩ := t
    obtain ⟨hdecl, hkind⟩ := primaryType?_eq_some_iff.mp h
    rw [Option.map_some, primaryType?_eq_some_iff, hfind, hdecl]
    exact ⟨rfl, (declKind?_shell decl).trans hkind⟩

theorem declared_eq (n : Node) :
    n.declared = ((n.children.find? isBody).map bodyMembers).getD [] := by
  rw [declared, members, body?_eq]
  cases n.children.find? isBody with
  | none => rfl
  | some b => rfl

theorem declaredMembers_eq (root : Node) :
    declaredMembers root = ((root.children.find? declares).map declared).getD [] := by
  rw [declaredMembers]
  cases h : primaryType? root with
  | none =>
    rw [primaryType?_eq_none_iff.mp h]
    rfl
  | some t =>
    obtain ⟨kind, decl⟩ := t
    rw [(primaryType?_eq_some_iff.mp h).1]
    rfl

/-! ### Looking through a file -/

section
variable {p : Node → Bool} (hp : ∀ k ns, p (branch k ns) = false)

theorem anyOf_eq (ns : List Node) : any.anyOf p ns = ns.any (any p) := by
  induction ns with
  | nil => rfl
  | cons n ns ih => rw [any.anyOf, List.any_cons, ih]

/-- What the first of a list holds is in what stands for it, or in what was taken out of it. -/
theorem any_mapFirst {α : Type} {P q r : α → Bool} {f : α → α}
    (h : ∀ a, P a = true → q a = (q (f a) || r a)) : ∀ as : List α,
      as.any q = ((mapFirst P f as).any q || ((as.find? P).map r).getD false)
  | [] => rfl
  | a :: as => by
    rw [mapFirst]
    by_cases ha : P a = true
    · rw [if_pos ha, List.find?_cons_of_pos ha, List.any_cons, List.any_cons, h a ha,
        Option.map_some, Option.getD_some, Bool.or_assoc, Bool.or_assoc, Bool.or_comm (r a)]
    · rw [if_neg ha, List.find?_cons_of_neg ha, List.any_cons, List.any_cons, any_mapFirst h as,
        Bool.or_assoc]

include hp

theorem any_branch (k : Kind) (ns : List Node) : any p (branch k ns) = ns.any (any p) := by
  rw [any, hp, Bool.false_or, anyOf_eq]

theorem any_vacated (n : Node) : any p n = (any p n.vacated || (n.isMember && any p n)) := by
  rw [vacated]
  by_cases hn : n.isMember = true
  · rw [if_pos hn, hn, gap, any_branch hp]
    simp
  · rw [if_neg hn]
    simp [hn]

theorem any_map_vacated (ns : List Node) :
    ns.any (any p) = ((ns.map vacated).any (any p) || (ns.filter isMember).any (any p)) := by
  induction ns with
  | nil => rfl
  | cons n ns ih =>
    rw [List.any_cons, ih, any_vacated hp n, List.map_cons, List.any_cons]
    by_cases hn : n.isMember = true
    · rw [List.filter_cons_of_pos hn, List.any_cons, hn, Bool.true_and]
      simp only [Bool.or_assoc, Bool.or_left_comm]
    · rw [List.filter_cons_of_neg hn]
      simp [hn, Bool.or_assoc]

theorem any_cleared (n : Node) :
    any p n = (any p n.cleared || (n.held.filter isMember).any (any p)) := by
  have hsingle : any p n = (any p n.vacated || ([n].filter isMember).any (any p)) := by
    have h := any_map_vacated hp [n]
    simpa using h
  rw [cleared.eq_def, held]
  split
  · rename_i ns
    rw [any_branch hp, any_branch hp]
    exact any_map_vacated hp ns
  · rename_i hn
    have hk : n.isKind .enumBodyDeclarations = false := by
      cases n with
      | leaf => rfl
      | branch k ns =>
        rw [isKind, beq_eq_false_iff_ne]
        rintro rfl
        exact hn ns rfl
    rw [hk]
    exact hsingle

theorem any_emptied (n : Node) : any p n = (any p n.emptied || n.bodyMembers.any (any p)) := by
  cases n with
  | leaf => simp [emptied, bodyMembers, children]
  | branch k ns =>
    rw [emptied, any_branch hp, any_branch hp, bodyMembers, children]
    induction ns with
    | nil => rfl
    | cons n ns ih =>
      rw [List.any_cons, ih, any_cleared hp n, List.map_cons, List.any_cons, List.flatMap_cons,
        List.filter_append, List.any_append]
      simp only [Bool.or_assoc, Bool.or_left_comm]

theorem any_shell (n : Node) : any p n = (any p n.shell || n.declared.any (any p)) := by
  cases n with
  | leaf => simp [shell, declared_eq, children]
  | branch k ns =>
    rw [shell, any_branch hp, any_branch hp, declared_eq, children,
      any_mapFirst (fun b _ => any_emptied hp b) ns]
    cases ns.find? isBody <;> rfl

/-- **What is in a file is in its shell or in a member.** -/
theorem any_fileShell (root : Node) :
    any p root = (any p (fileShell root) || (declaredMembers root).any (any p)) := by
  cases root with
  | leaf => simp [fileShell, declaredMembers_eq, children]
  | branch k ns =>
    rw [fileShell, any_branch hp, any_branch hp, declaredMembers_eq, children,
      any_mapFirst (fun n _ => any_shell hp n) ns]
    cases ns.find? declares <;> rfl

end

/-! ### Other members in the gaps -/

/-- Into the gaps any members can be put, as many as there were. -/
theorem exists_vacated : ∀ (ns : List Node) {ms : List Node},
    (∀ m ∈ ms, m.isMember = true) → ms.length = (ns.filter isMember).length →
      ∃ ns' : List Node, ns'.map vacated = ns.map vacated ∧ ns'.filter isMember = ms
  | [], ms, _, hlen => ⟨[], rfl, (List.length_eq_zero_iff.mp hlen).symm⟩
  | n :: ns, ms, hms, hlen => by
    by_cases hn : n.isMember = true
    · rw [List.filter_cons_of_pos hn] at hlen
      cases ms with
      | nil => cases hlen
      | cons m ms =>
        rw [List.forall_mem_cons] at hms
        obtain ⟨ns', hsame, hfill⟩ := exists_vacated ns hms.2 (Nat.succ.inj hlen)
        refine ⟨m :: ns', ?_, by rw [List.filter_cons_of_pos hms.1, hfill]⟩
        rw [List.map_cons, List.map_cons, hsame, vacated, vacated, if_pos hms.1, if_pos hn]
    · rw [List.filter_cons_of_neg hn] at hlen
      obtain ⟨ns', hsame, hfill⟩ := exists_vacated ns hms hlen
      exact ⟨n :: ns', by rw [List.map_cons, List.map_cons, hsame],
        by rw [List.filter_cons_of_neg hn, hfill]⟩

theorem cleared_of_not {n : Node} (hk : n.isKind .enumBodyDeclarations = false) :
    n.cleared = n.vacated := by
  rw [cleared.eq_def]
  split
  · cases hk
  · rfl

theorem not_group_of_member {n : Node} (hn : n.isMember = true) :
    n.isKind .enumBodyDeclarations = false := by
  cases n with
  | leaf => rfl
  | branch k ns =>
    rw [isMember, Bool.and_eq_true] at hn
    have hne : k ≠ .enumBodyDeclarations := by simpa using hn.2
    rw [isKind, beq_eq_false_iff_ne]
    exact hne.symm

theorem exists_cleared_node (n : Node) {ms : List Node} (hms : ∀ m ∈ ms, m.isMember = true)
    (hlen : ms.length = (n.held.filter isMember).length) :
    ∃ n', cleared n' = cleared n ∧ n'.held.filter isMember = ms := by
  cases hk : n.isKind .enumBodyDeclarations with
  | true =>
    cases n with
    | leaf => cases hk
    | branch k ns =>
      rw [isKind, beq_iff_eq] at hk
      subst hk
      obtain ⟨ns', hsame, hfill⟩ := exists_vacated ns hms hlen
      refine ⟨branch .enumBodyDeclarations ns', ?_, hfill⟩
      exact congrArg (branch .enumBodyDeclarations) hsame
  | false =>
    rw [held, hk] at hlen
    by_cases hn : n.isMember = true
    · have hone : ms.length = 1 := by simpa [hn] using hlen
      obtain ⟨m, rfl⟩ := List.length_eq_one_iff.mp hone
      have hm := hms m (List.mem_singleton_self m)
      have hkm := not_group_of_member hm
      refine ⟨m, ?_, ?_⟩
      · rw [cleared_of_not hk, cleared_of_not hkm, vacated, vacated, if_pos hm, if_pos hn]
      · rw [held, hkm]
        simp [hm]
    · have hnone : ms = [] := by simpa [hn] using hlen
      refine ⟨n, rfl, ?_⟩
      rw [held, hk, hnone]
      simp [hn]

theorem exists_cleared : ∀ (ns : List Node) {ms : List Node},
    (∀ m ∈ ms, m.isMember = true) → ms.length = ((ns.flatMap held).filter isMember).length →
      ∃ ns' : List Node, ns'.map cleared = ns.map cleared ∧
        (ns'.flatMap held).filter isMember = ms
  | [], ms, _, hlen => ⟨[], rfl, (List.length_eq_zero_iff.mp hlen).symm⟩
  | n :: ns, ms, hms, hlen => by
    rw [List.flatMap_cons, List.filter_append, List.length_append] at hlen
    have hcut : ms = ms.take (n.held.filter isMember).length ++
        ms.drop (n.held.filter isMember).length := (List.take_append_drop _ ms).symm
    generalize hfirst : ms.take (n.held.filter isMember).length = first at hcut
    generalize hrest : ms.drop (n.held.filter isMember).length = rest at hcut
    have hlens : first.length = (n.held.filter isMember).length := by
      rw [← hfirst, List.length_take]
      omega
    rw [hcut, List.length_append, hlens, Nat.add_left_cancel_iff] at hlen
    rw [hcut, List.forall_mem_append] at hms
    obtain ⟨n', hn', hfill⟩ := exists_cleared_node n hms.1 hlens
    obtain ⟨ns', hns', hfills⟩ := exists_cleared ns hms.2 hlen
    refine ⟨n' :: ns', by rw [List.map_cons, List.map_cons, hn', hns'], ?_⟩
    rw [List.flatMap_cons, List.filter_append, hfill, hfills, hcut]

theorem exists_emptied (n : Node) {ms : List Node} (hms : ∀ m ∈ ms, m.isMember = true)
    (hlen : ms.length = n.bodyMembers.length) :
    ∃ n', emptied n' = emptied n ∧ n'.bodyMembers = ms := by
  cases n with
  | leaf => exact ⟨_, rfl, (List.length_eq_zero_iff.mp hlen).symm⟩
  | branch k ns =>
    obtain ⟨ns', hsame, hfill⟩ := exists_cleared ns hms hlen
    exact ⟨branch k ns', congrArg (branch k) hsame, hfill⟩

theorem exists_shell (n : Node) {ms : List Node} (hms : ∀ m ∈ ms, m.isMember = true)
    (hlen : ms.length = n.declared.length) : ∃ n', shell n' = shell n ∧ n'.declared = ms := by
  rw [declared_eq] at hlen
  cases hb : n.children.find? isBody with
  | none =>
    rw [hb] at hlen
    have hnone : ms = [] := List.length_eq_zero_iff.mp hlen
    refine ⟨n, rfl, ?_⟩
    rw [declared_eq, hb, hnone]
    rfl
  | some b =>
    rw [hb] at hlen
    obtain ⟨b', hsame, hfill⟩ := exists_emptied b hms hlen
    cases n with
    | leaf => cases hb
    | branch k ns =>
      have hbody : b'.isBody = true := by
        rw [← isBody_emptied, hsame, isBody_emptied]
        exact List.find?_some hb
      obtain ⟨ns', hfind, hrest⟩ := exists_replaced hbody hsame ns hb
      refine ⟨branch k ns', congrArg (branch k) hrest, ?_⟩
      rw [declared_eq, children, hfind]
      exact hfill

/-- **A file can have any other members in the gaps of its shell**, as many as it has itself. -/
theorem exists_refilled (root : Node) {ms : List Node} (hms : ∀ m ∈ ms, m.isMember = true)
    (hlen : ms.length = (declaredMembers root).length) :
    ∃ root', fileShell root' = fileShell root ∧ declaredMembers root' = ms := by
  rw [declaredMembers_eq] at hlen
  cases hd : root.children.find? declares with
  | none =>
    rw [hd] at hlen
    have hnone : ms = [] := List.length_eq_zero_iff.mp hlen
    refine ⟨root, rfl, ?_⟩
    rw [declaredMembers_eq, hd, hnone]
    rfl
  | some decl =>
    rw [hd] at hlen
    obtain ⟨decl', hsame, hfill⟩ := exists_shell decl hms hlen
    cases root with
    | leaf => cases hd
    | branch k ns =>
      have hdeclares : decl'.declares = true := by
        rw [← declares_shell, hsame, declares_shell]
        exact List.find?_some hd
      obtain ⟨ns', hfind, hrest⟩ := exists_replaced hdeclares hsame ns hd
      refine ⟨branch k ns', congrArg (branch k) hrest, ?_⟩
      rw [declaredMembers_eq, children, hfind]
      exact hfill

end Testsmith.Java
