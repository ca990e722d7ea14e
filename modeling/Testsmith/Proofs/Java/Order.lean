/-
# The order of members

The role of a type and whether it speaks to a database do not depend on the order of its members,
and the rule on data holders is about all public methods, overloads included (`OrderFree`). There is
one exception, and it is an exact one (`orderFree_iff`): a method that is none of a data holder's and
has the name of one that is. Of the two only the first is looked at, so that the type passes for a
data holder when the accessor comes first and does not when the other one does.

Key definitions: `Reordered`, `stereotypeByAll`, `OrderFree`, `HidesOverload`.
Key theorems: `reordered_facts`, `exists_reordered`, `orderFree_iff`.
-/
import Testsmith.Proofs.Java.Accessors
import Testsmith.Proofs.Java.Members

namespace Testsmith.Java

open Node

/-! ### Methods among the members -/

/-- The signature of a member that is a method which callers outside of the package see. -/
def publicMethod? (kind : DeclKind) (n : Node) : Option Method :=
  if n.isKind .methodDeclaration &&
      (n.hasModifier "public" || (kind == .interface && !n.hasModifier "private")) then methodOf? n
  else none

/-- All public methods of a type, overloads included. -/
def allPublicMethods (kind : DeclKind) (decl : Node) : List Method :=
  decl.declared.filterMap (publicMethod? kind)

/-- The member starts a program. -/
def startsProgram (n : Node) : Bool :=
  n.isKind .methodDeclaration && (methodOf? n).any (isMain n)

theorem isMember_of_isKind {n : Node} (h : n.isKind .methodDeclaration = true) :
    n.isMember = true := by
  cases n with
  | leaf => cases h
  | branch k ns =>
    rw [isKind, beq_iff_eq] at h
    rw [← h]
    rfl

theorem methodsOf_eq (decl : Node) : methodsOf decl =
    (decl.declared.filter (isKind .methodDeclaration)).filterMap fun m =>
      (methodOf? m).map (m, ·) := by
  rw [methodsOf, declared, List.filter_filter]
  congr 1
  refine List.filter_congr fun n _ => ?_
  by_cases hn : n.isKind .methodDeclaration = true
  · rw [hn, isMember_of_isKind hn]
    rfl
  · simp [hn]

/-- The public methods are the first of each name among all. -/
theorem publicMethods_eq (kind : DeclKind) (decl : Node) :
    publicMethods kind decl = firstOfEachName (allPublicMethods kind decl) := by
  rw [publicMethods, allPublicMethods, methodsOf_eq]
  congr 1
  induction decl.declared with
  | nil => rfl
  | cons n ns ih =>
    rw [List.filterMap_cons, ← ih, publicMethod?]
    cases hn : n.isKind .methodDeclaration with
    | false => simp [hn]
    | true =>
      rw [List.filter_cons_of_pos hn, List.filterMap_cons, Bool.true_and]
      cases methodOf? n with
      | none => simp
      | some m =>
        rw [Option.map_some]
        cases hseen : n.hasModifier "public" || (kind == .interface && !n.hasModifier "private")
        · simp [hseen]
        · simp [hseen]

theorem hasMain_eq (decl : Node) :
    ((methodsOf decl).any fun (n, m) => isMain n m) = decl.declared.any startsProgram := by
  rw [methodsOf_eq]
  induction decl.declared with
  | nil => rfl
  | cons n ns ih =>
    rw [List.any_cons, ← ih, startsProgram]
    cases hn : n.isKind .methodDeclaration with
    | false => simp [hn]
    | true =>
      rw [List.filter_cons_of_pos hn, List.filterMap_cons, Bool.true_and]
      cases methodOf? n <;> simp

/-! ### The same file in another order -/

/-- The files differ in the order of the members of their first type alone. -/
structure Reordered (root root' : Node) : Prop where
  shell : fileShell root' = fileShell root
  members : (declaredMembers root').Perm (declaredMembers root)

/-- What the first types have in common. -/
structure Alike (decl decl' : Node) : Prop where
  annotations : decl'.annotationNames = decl.annotationNames
  supertypes : supertypes decl' = supertypes decl
  members : decl'.declared.Perm decl.declared

theorem declaredMembers_of_primaryType? {root decl : Node} {kind : DeclKind}
    (h : primaryType? root = some (kind, decl)) : declaredMembers root = decl.declared := by
  rw [declaredMembers, h]
  rfl

/-- The first types of files in another order are of one kind and alike. -/
theorem Reordered.alike {root root' decl : Node} {kind : DeclKind} (h : Reordered root root')
    (hp : primaryType? root = some (kind, decl)) :
    ∃ decl', primaryType? root' = some (kind, decl') ∧ Alike decl decl' := by
  have hshell := primaryType?_fileShell root'
  rw [h.shell, primaryType?_fileShell, hp, Option.map_some, eq_comm,
    Option.map_eq_some_iff] at hshell
  obtain ⟨⟨kind', decl'⟩, hp', heq⟩ := hshell
  rw [Prod.mk.injEq] at heq
  obtain ⟨rfl, hdecl⟩ := heq
  have hmembers := h.members
  rw [declaredMembers_of_primaryType? hp, declaredMembers_of_primaryType? hp'] at hmembers
  refine ⟨decl', hp', ?_, ?_, hmembers⟩
  · rw [← annotationNames_shell, ← annotationNames_shell decl]
    exact congrArg annotationNames hdecl
  · rw [← supertypes_shell, ← supertypes_shell decl]
    exact congrArg Java.supertypes hdecl

theorem Reordered.primaryType?_none {root root' : Node} (h : Reordered root root')
    (hp : primaryType? root = none) : primaryType? root' = none := by
  have hshell := primaryType?_fileShell root'
  rw [h.shell, primaryType?_fileShell, hp, Option.map_none, eq_comm,
    Option.map_eq_none_iff] at hshell
  exact hshell

/-- What is spoken to in a file does not depend on the order of members. -/
theorem Reordered.referencesPersistence {root root' : Node} (h : Reordered root root') :
    Java.referencesPersistence root' = Java.referencesPersistence root := by
  rw [Java.referencesPersistence, Java.referencesPersistence, any_fileShell (fun _ _ => rfl) root',
    any_fileShell (fun _ _ => rfl) root, h.shell, h.members.any_eq]

/-- The members of a file can be brought into any order. -/
theorem exists_reordered (root : Node) {ms : List Node} (h : ms.Perm (declaredMembers root)) :
    ∃ root', Reordered root root' ∧ declaredMembers root' = ms := by
  have hms : ∀ m ∈ ms, m.isMember = true := by
    intro m hm
    have hmem := h.mem_iff.mp hm
    rw [declaredMembers_eq] at hmem
    cases hd : root.children.find? declares with
    | none =>
      rw [hd] at hmem
      cases hmem
    | some decl =>
      rw [hd] at hmem
      exact (List.mem_filter.mp hmem).2
  obtain ⟨root', hshell, hmembers⟩ := exists_refilled root hms h.length_eq
  exact ⟨root', ⟨hshell, by rwa [hmembers]⟩, hmembers⟩

/-! ### The role -/

/-- The role of a type by all its public methods, overloads included. -/
def stereotypeByAll (root : Node) : Stereotype :=
  match primaryType? root with
  | none => .plain
  | some (kind, decl) =>
    stereotypeOf kind decl.annotationNames (supertypes decl) (allPublicMethods kind decl)
      (decl.declared.any startsProgram)

/-- The role of a type and its use of a database do not depend on the order of its members, and the
role is the one by all its public methods. -/
structure OrderFree (tree : SyntaxTree) : Prop where
  stereotype : ∀ tree', Reordered tree.root tree'.root →
    (factsOf tree').stereotype = (factsOf tree).stereotype
  persistence : ∀ tree', Reordered tree.root tree'.root →
    (factsOf tree').persistenceAccess = (factsOf tree).persistenceAccess
  overloads : (factsOf tree).stereotype = stereotypeByAll tree.root

/-- No rule but the one on data holders says anything about the type, and among its public methods
there is one that is none of a data holder's, and has the name of one that is. -/
def HidesOverload (root : Node) : Prop :=
  ∃ kind decl, primaryType? root = some (kind, decl) ∧
    stereotypeOf kind decl.annotationNames (supertypes decl) [] (decl.declared.any startsProgram) =
      .plain ∧
    Shadowed (allPublicMethods kind decl)

section
variable {kind : DeclKind} {annotations types : List String} {hasMain : Bool}

/-- The methods count where no other rule applies. -/
theorem stereotypeOf_eq (ms : List Method) :
    stereotypeOf kind annotations types ms hasMain =
      if stereotypeOf kind annotations types [] hasMain = .plain then
        if isAccessorOnly ms = true then .model else .plain
      else stereotypeOf kind annotations types [] hasMain := by
  have hnil : isAccessorOnly [] = false := rfl
  simp only [stereotypeOf, hnil, Bool.or_false]
  repeat' split
  all_goals simp_all

end

/-- The role of the first type of a file. -/
theorem factsOf_stereotype (tree : SyntaxTree) {kind : DeclKind} {decl : Node}
    (h : primaryType? tree.root = some (kind, decl)) :
    (factsOf tree).stereotype =
      stereotypeOf kind decl.annotationNames (supertypes decl)
        (firstOfEachName (allPublicMethods kind decl)) (decl.declared.any startsProgram) := by
  rw [factsOf, h]
  dsimp only
  rw [publicMethods_eq, hasMain_eq]

theorem factsOf_persistenceAccess {tree : SyntaxTree} {kind : DeclKind} {decl : Node}
    (h : primaryType? tree.root = some (kind, decl)) :
    (factsOf tree).persistenceAccess =
      (decl.annotationNames.contains "Entity" || referencesPersistence tree.root) := by
  rw [factsOf, h]

/-- Without a type there is no role, and nothing is spoken to. -/
theorem factsOf_of_none {tree : SyntaxTree} (h : primaryType? tree.root = none) :
    (factsOf tree).stereotype = .plain ∧ (factsOf tree).persistenceAccess = false := by
  rw [factsOf, h]
  exact ⟨rfl, rfl⟩

/-! ### What another order changes -/

theorem Reordered.symm {root root' : Node} (h : Reordered root root') : Reordered root' root :=
  ⟨h.shell.symm, h.members.symm⟩

/-- In another order, the persistence access is the same. -/
theorem Reordered.persistenceAccess {tree tree' : SyntaxTree}
    (h : Reordered tree.root tree'.root) :
    (factsOf tree').persistenceAccess = (factsOf tree).persistenceAccess := by
  cases hp : primaryType? tree.root with
  | none => rw [(factsOf_of_none hp).2, (factsOf_of_none (h.primaryType?_none hp)).2]
  | some t =>
    obtain ⟨kind, decl⟩ := t
    obtain ⟨decl', hp', halike⟩ := h.alike hp
    rw [factsOf_persistenceAccess hp, factsOf_persistenceAccess hp', halike.annotations,
      h.referencesPersistence]

theorem Alike.allPublicMethods {decl decl' : Node} (h : Alike decl decl') (kind : DeclKind) :
    (Java.allPublicMethods kind decl').Perm (Java.allPublicMethods kind decl) :=
  h.members.filterMap _

/-- In another order, the role by all public methods is the same. -/
theorem Reordered.stereotypeByAll {root root' : Node} (h : Reordered root root') :
    Java.stereotypeByAll root' = Java.stereotypeByAll root := by
  cases hp : primaryType? root with
  | none => rw [Java.stereotypeByAll, Java.stereotypeByAll, hp, h.primaryType?_none hp]
  | some t =>
    obtain ⟨kind, decl⟩ := t
    obtain ⟨decl', hp', halike⟩ := h.alike hp
    rw [Java.stereotypeByAll, Java.stereotypeByAll, hp, hp']
    dsimp only
    rw [stereotypeOf_eq, stereotypeOf_eq (Java.allPublicMethods kind decl), halike.annotations,
      halike.supertypes, halike.members.any_eq, isAccessorOnly_perm (halike.allPublicMethods kind)]

/-- In another order, an overload is hidden as well. -/
theorem Reordered.hidesOverload {root root' : Node} (h : Reordered root root')
    (hh : HidesOverload root) : HidesOverload root' := by
  obtain ⟨kind, decl, hp, hrules, hshadowed⟩ := hh
  obtain ⟨decl', hp', halike⟩ := h.alike hp
  refine ⟨kind, decl', hp', ?_, shadowed_perm (halike.allPublicMethods kind).symm hshadowed⟩
  rw [halike.annotations, halike.supertypes, halike.members.any_eq]
  exact hrules

/-- Where no overload is hidden, the role is the one by all public methods. -/
theorem stereotype_eq_byAll {tree : SyntaxTree} (h : ¬HidesOverload tree.root) :
    (factsOf tree).stereotype = stereotypeByAll tree.root := by
  rw [stereotypeByAll]
  cases hp : primaryType? tree.root with
  | none => exact (factsOf_of_none hp).1
  | some t =>
    obtain ⟨kind, decl⟩ := t
    rw [factsOf_stereotype tree hp]
    dsimp only
    rw [stereotypeOf_eq, stereotypeOf_eq (allPublicMethods kind decl)]
    refine ite_congr rfl (fun hrules => ?_) fun _ => rfl
    rw [isAccessorOnly_firstOfEachName fun hshadowed => h ⟨kind, decl, hp, hrules, hshadowed⟩]

/-- What is taken of the members that are kept is kept of what is taken of the members. -/
theorem filterMap_filter {α β : Type} {f : α → Option β} {q : α → Bool} {s : β → Bool}
    (h : ∀ a b, f a = some b → q a = s b) (as : List α) :
    (as.filter q).filterMap f = (as.filterMap f).filter s := by
  induction as with
  | nil => rfl
  | cons a as ih =>
    rw [List.filter_cons, List.filterMap_cons]
    cases hf : f a with
    | none =>
      cases q a with
      | true => rw [if_pos rfl, List.filterMap_cons_none hf, ih]
      | false => exact ih
    | some b =>
      rw [h a b hf]
      dsimp only
      cases hs : s b with
      | true => rw [if_pos rfl, List.filterMap_cons_some hf, List.filter_cons_of_pos hs, ih]
      | false => rw [List.filter_cons_of_neg (by simp [hs]), ← ih]; rfl

/-- Where an overload is hidden, there is an order of the members in which the type passes for a
data holder, though it is none by all its public methods. -/
theorem exists_model_order {tree : SyntaxTree} (h : HidesOverload tree.root) :
    (∃ tree', Reordered tree.root tree'.root ∧ (factsOf tree').stereotype = .model) ∧
      stereotypeByAll tree.root = .plain := by
  obtain ⟨kind, decl, hp, hrules, hshadowed⟩ := h
  obtain ⟨hfirst, hall⟩ := isAccessorOnly_of_shadowed hshadowed
  constructor
  · -- the accessors go before all other members
    let isAccessor (n : Node) : Bool := (publicMethod? kind n).any (·.isAccessorShaped)
    have hperm : (decl.declared.filter isAccessor ++
        decl.declared.filter fun n => !isAccessor n).Perm (declaredMembers tree.root) := by
      rw [declaredMembers_of_primaryType? hp]
      exact List.filter_append_perm _ _
    obtain ⟨root', hreordered, hmembers⟩ := exists_reordered tree.root hperm
    obtain ⟨decl', hp', halike⟩ := hreordered.alike hp
    rw [declaredMembers_of_primaryType? hp'] at hmembers
    have hmethods : allPublicMethods kind decl' =
        (allPublicMethods kind decl).filter (·.isAccessorShaped) ++
          (allPublicMethods kind decl).filter fun m => !m.isAccessorShaped := by
      rw [allPublicMethods, hmembers, List.filterMap_append, allPublicMethods,
        filterMap_filter (s := (·.isAccessorShaped)) (fun n m hm => by simp [isAccessor, hm]),
        filterMap_filter (s := fun m => !m.isAccessorShaped)
          (fun n m hm => by simp [isAccessor, hm])]
    refine ⟨⟨root', tree.broken⟩, hreordered, ?_⟩
    rw [factsOf_stereotype ⟨root', tree.broken⟩ hp', stereotypeOf_eq, halike.annotations,
      halike.supertypes, halike.members.any_eq, if_pos hrules, hmethods, if_pos hfirst]
  · rw [stereotypeByAll, hp]
    dsimp only
    rw [stereotypeOf_eq, if_pos hrules, hall]
    rfl

/-- **The role of a type does not depend on the order of its members exactly when no overload is
hidden.** For any tree: the role and the use of a database are the same in every order of the
members of the first type, and the role is the one by all public methods, unless only the rule on
data holders is left and a method that is none of theirs has the name of one that is. -/
theorem orderFree_iff (tree : SyntaxTree) : OrderFree tree ↔ ¬HidesOverload tree.root := by
  constructor
  · intro h hides
    obtain ⟨⟨tree', hreordered, hmodel⟩, hplain⟩ := exists_model_order hides
    have hsame := h.stereotype tree' hreordered
    rw [hmodel, h.overloads, hplain] at hsame
    cases hsame
  · intro h
    refine ⟨fun tree' hr => ?_, fun tree' hr => hr.persistenceAccess, stereotype_eq_byAll h⟩
    have h' : ¬HidesOverload tree'.root := fun hh => h (hr.symm.hidesOverload hh)
    rw [stereotype_eq_byAll h, stereotype_eq_byAll h', hr.stereotypeByAll]

/-- A reader of an element has the name of a getter, and the type passes for a data holder. -/
theorem not_orderFree_element :
    let source := "abstract class P \x7b public abstract int getX(); " ++
      "public abstract int getX(int i); public abstract void setX(int v); \x7d"
    (analyze source).stereotype = .model ∧ stereotypeByAll (parse source).root = .plain ∧
      ¬OrderFree (parse source) := by
  intro source
  have hroles : (factsOf (parse source)).stereotype = .model ∧
      stereotypeByAll (parse source).root = .plain := by decide +kernel
  refine ⟨hroles.1, hroles.2, fun h => ?_⟩
  have hsame := h.overloads
  rw [hroles.1, hroles.2] at hsame
  cases hsame

end Testsmith.Java
