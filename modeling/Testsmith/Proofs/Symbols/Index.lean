/-
# The symbol index holds the last declaration of each name

Declarations are taken in the order of their files, those of the default package left out. If a
later one wins, the index has the last declaration of each name, and the names with more than one
are its collisions, each with all of them (`Indexes`). If a second one is an error, it is about the
earliest declaration of a name that was declared before (`FirstRepeat`), and without one the index
is the same.

What adding one declaration keeps (`Records`) is that the two maps of the index hold what the
declarations so far say; a name comes to the collisions with its second declaration, and each
further one is put after those already there.

Key definitions: `packaged`, `declaring`, `Indexes`, `FirstRepeat`.
Key theorems: `add_records`, `records_indexes`, `ofFiles_discover`.
-/
import Testsmith.Project
import Testsmith.Proofs.Files.Discovery
import Testsmith.Proofs.Text.Bytes
import Mathlib.Data.List.Dedup
import Mathlib.Data.List.Induction
import Mathlib.Data.List.Perm.Basic

namespace Testsmith.SymbolIndex

/-- A declaration and its file. -/
abbrev Scanned := Path × TypeDeclaration

/-- The declarations of a package. Others cannot be imported. -/
def packaged (ds : List Scanned) : List Scanned := ds.filter (·.2.package.isSome)

/-- The declarations of a simple name. -/
def declaring (name : String) (ds : List Scanned) : List Scanned :=
  ds.filter (·.2.name = name)

/-- The simple names of declarations, in their order. -/
def names (ds : List Scanned) : List String := ds.map (·.2.name)

def entryOf (x : Scanned) : SymbolEntry := ⟨x.2.qualifiedName, x.1⟩

/-- All declarations of a name, as a collision. -/
def collisionOf (name : String) (ds : List Scanned) : Collision where
  simpleName := name
  qualifiedNames := (declaring name ds).map (·.2.qualifiedName)
  files := (declaring name ds).map (·.1)

/-- The error about a name with a second declaration. -/
def clash (name : String) (previous file : Path) : ConfigError :=
  .invalid ("type name " ++ name ++ " is declared by both " ++ previous.text ++ " and " ++
    file.text)

/-- **The index holds the last declaration of each name**, and as collisions the names with more
than one, in the order of the bytes of the name. -/
structure Indexes (ds : List Scanned) (i : SymbolIndex) : Prop where
  resolve : ∀ name, i.resolve? name = (declaring name ds).getLast?.map (·.2.qualifiedName)
  resolves : ∀ name, (i.resolve? name).isSome ↔ name ∈ names ds
  size : i.size = (names ds).dedup.length
  ordered : i.collisions.Pairwise fun a b => Text.bytesOf a.simpleName < Text.bytesOf b.simpleName
  mem_collisions : ∀ c, c ∈ i.collisions ↔
    2 ≤ (names ds).count c.simpleName ∧ c = collisionOf c.simpleName ds
  /-- What stands last in a collision is what the index has. -/
  last : ∀ c ∈ i.collisions, ∃ e, i.entries.get? c.simpleName = some e ∧
    c.qualifiedNames.getLast? = some e.qualifiedName ∧ c.files.getLast? = some e.file

/-- The earliest declaration of a name that was declared before: the name, and the files of the
declaration before and of this one. -/
inductive FirstRepeat : List Scanned → (name : String) → (previous file : Path) → Prop
  | of {before after : List Scanned} {previous file : Path} {d d' : TypeDeclaration} :
    (names before).Nodup → (previous, d) ∈ before → d.name = d'.name →
      FirstRepeat (before ++ (file, d') :: after) d'.name previous file

variable {ds : List Scanned} {i : SymbolIndex} {x : Scanned} {name : String}

/-! ### What one declaration adds -/

theorem mem_names_iff : name ∈ names ds ↔ declaring name ds ≠ [] := by
  rw [names, declaring, List.mem_map, ne_eq, List.filter_eq_nil_iff]
  push Not
  exact exists_congr fun y => and_congr_right fun _ => decide_eq_true_iff.symm

theorem count_names (name : String) (ds : List Scanned) :
    (names ds).count name = (declaring name ds).length := by
  rw [names, declaring, List.count, List.countP_map, List.countP_eq_length_filter]
  rfl

theorem declaring_concat_self (ds : List Scanned) (x : Scanned) :
    declaring x.2.name (ds ++ [x]) = declaring x.2.name ds ++ [x] := by
  rw [declaring, List.filter_append, List.filter_cons_of_pos (by simp), List.filter_nil, declaring]

theorem declaring_concat_of_ne (h : name ≠ x.2.name) (ds : List Scanned) :
    declaring name (ds ++ [x]) = declaring name ds := by
  rw [declaring, List.filter_append, List.filter_cons_of_neg (by simpa using h.symm),
    List.filter_nil, List.append_nil, declaring]

/-- The maps of the index hold what the declarations say. -/
structure Records (ds : List Scanned) (i : SymbolIndex) : Prop where
  entry : ∀ name, i.entries.get? name = (declaring name ds).getLast?.map entryOf
  collision : ∀ name, i.collisionMap.get? name =
    if 2 ≤ (declaring name ds).length then some (collisionOf name ds) else none

theorem records_empty : Records [] empty := ⟨fun _ => rfl, fun _ => rfl⟩

theorem Records.entry_none_iff (h : Records ds i) :
    i.entries.get? name = none ↔ name ∉ names ds := by
  rw [h.entry, Option.map_eq_none_iff, List.getLast?_eq_none_iff, mem_names_iff, not_not]

theorem not_isNone (h : x.2.package.isSome) : ¬x.2.package.isNone = true := by
  rw [Option.isNone_eq_false_iff.mpr h]
  exact Bool.false_ne_true

theorem add_unpackaged {policy : CollisionPolicy} (h : x.2.package = none) :
    i.add policy x.1 x.2 = .ok i := by
  rw [add, h]
  rfl

/-- The first declaration of a name is no collision. -/
theorem add_new {policy : CollisionPolicy} (hpackage : x.2.package.isSome)
    (h : i.entries.get? x.2.name = none) :
    i.add policy x.1 x.2 = .ok { i with entries := i.entries.insert x.2.name (entryOf x) } := by
  rw [add, if_neg (not_isNone hpackage), h]
  rfl

theorem add_again {e : SymbolEntry} (hpackage : x.2.package.isSome)
    (h : i.entries.get? x.2.name = some e) :
    i.add .lastWins x.1 x.2 = .ok {
      entries := i.entries.insert x.2.name (entryOf x)
      collisionMap := i.collisionMap.insert x.2.name
        (extendCollision (i.collisionMap.get? x.2.name) x.2.name e (entryOf x)) } := by
  rw [add, if_neg (not_isNone hpackage), h]
  rfl

theorem add_refused {e : SymbolEntry} (hpackage : x.2.package.isSome)
    (h : i.entries.get? x.2.name = some e) :
    i.add .error x.1 x.2 = .error (clash x.2.name e.file x.1) := by
  rw [add, if_neg (not_isNone hpackage), h]
  rfl

/-- With one more declaration, the collision of a name has all of them. -/
theorem Records.extendCollision (h : Records ds i) {last : Scanned}
    (hlast : (declaring x.2.name ds).getLast? = some last) :
    SymbolIndex.extendCollision (i.collisionMap.get? x.2.name) x.2.name (entryOf last) (entryOf x) =
      collisionOf x.2.name (ds ++ [x]) := by
  rw [h.collision]
  conv_rhs => rw [collisionOf, declaring_concat_self, List.map_append, List.map_append]
  split
  · rfl
  · -- the declaration before is the only one
    rename_i hone
    obtain ⟨front, hfront⟩ := List.getLast?_eq_some_iff.mp hlast
    have hnil : front = [] := by
      rw [hfront, List.length_append, List.length_singleton] at hone
      exact List.eq_nil_of_length_eq_zero (by omega)
    rw [hfront, hnil]
    rfl

theorem Records.insert_new (h : Records ds i) (hnew : x.2.name ∉ names ds) :
    Records (ds ++ [x]) { i with entries := i.entries.insert x.2.name (entryOf x) } := by
  have hnone : declaring x.2.name ds = [] := by rwa [mem_names_iff, not_not] at hnew
  refine ⟨fun name => ?_, fun name => ?_⟩
  · by_cases hname : name = x.2.name
    · rw [hname, StringMap.get?_insert_self, declaring_concat_self, List.getLast?_concat]
      rfl
    · rw [StringMap.get?_insert_of_ne hname, declaring_concat_of_ne hname, h.entry]
  · rw [h.collision]
    by_cases hname : name = x.2.name
    · rw [hname, declaring_concat_self, hnone]
      rfl
    · rw [collisionOf, collisionOf, declaring_concat_of_ne hname]

/-- **Where a later declaration wins, each one is recorded.** -/
theorem add_records (hpackage : x.2.package.isSome) (h : Records ds i) :
    ∃ i', i.add .lastWins x.1 x.2 = .ok i' ∧ Records (ds ++ [x]) i' := by
  cases hentry : i.entries.get? x.2.name with
  | none => exact ⟨_, add_new hpackage hentry, h.insert_new (h.entry_none_iff.mp hentry)⟩
  | some e =>
    refine ⟨_, add_again hpackage hentry, fun name => ?_, fun name => ?_⟩
    · by_cases hname : name = x.2.name
      · rw [hname, StringMap.get?_insert_self, declaring_concat_self, List.getLast?_concat]
        rfl
      · rw [StringMap.get?_insert_of_ne hname, declaring_concat_of_ne hname, h.entry]
    · by_cases hname : name = x.2.name
      · obtain ⟨last, hlast, rfl⟩ := Option.map_eq_some_iff.mp ((h.entry _).symm.trans hentry)
        have hlong : 2 ≤ (declaring x.2.name (ds ++ [x])).length := by
          obtain ⟨front, hfront⟩ := List.getLast?_eq_some_iff.mp hlast
          rw [declaring_concat_self, hfront]
          simp only [List.length_append, List.length_singleton]
          omega
        rw [hname, StringMap.get?_insert_self, h.extendCollision hlast, if_pos hlong]
      · rw [StringMap.get?_insert_of_ne hname, h.collision, collisionOf, collisionOf,
          declaring_concat_of_ne hname]

/-! ### All declarations -/

theorem ofDeclarations_append (policy : CollisionPolicy) (ds more : List Scanned) :
    ofDeclarations policy (ds ++ more) =
      ofDeclarations policy ds >>= more.foldlM fun i x => i.add policy x.1 x.2 := by
  rw [ofDeclarations, List.foldlM_append, ofDeclarations]

theorem ofDeclarations_concat (policy : CollisionPolicy) (ds : List Scanned) (x : Scanned) :
    ofDeclarations policy (ds ++ [x]) =
      ofDeclarations policy ds >>= fun i => i.add policy x.1 x.2 := by
  simp only [ofDeclarations_append, List.foldlM_cons, List.foldlM_nil, bind_pure]

/-- Declarations of the default package do not count. -/
theorem ofDeclarations_packaged (policy : CollisionPolicy) (ds : List Scanned) :
    ofDeclarations policy ds = ofDeclarations policy (packaged ds) := by
  induction ds using List.reverseRecOn with
  | nil => rfl
  | append_singleton ds x ih =>
    rw [ofDeclarations_concat, ih, packaged, packaged, List.filter_append]
    cases hpackage : x.2.package with
    | none =>
      simp only [add_unpackaged hpackage]
      rw [List.filter_cons_of_neg (by simp [hpackage]), List.filter_nil, List.append_nil]
      exact bind_pure _
    | some package =>
      rw [List.filter_cons_of_pos (by simp [hpackage]), List.filter_nil, ofDeclarations_concat]

/-- All declarations are of a package. -/
def Packaged (ds : List Scanned) : Prop := ∀ x ∈ ds, x.2.package.isSome

theorem packaged_packaged (ds : List Scanned) : Packaged (packaged ds) :=
  fun _ hx => (List.mem_filter.mp hx).2

theorem Packaged.concat (h : Packaged (ds ++ [x])) : Packaged ds ∧ x.2.package.isSome :=
  ⟨fun y hy => h y (List.mem_append_left _ hy), h x (List.mem_append_right _ List.mem_cons_self)⟩

theorem ofDeclarations_lastWins (h : Packaged ds) :
    ∃ i, ofDeclarations .lastWins ds = .ok i ∧ Records ds i := by
  induction ds using List.reverseRecOn with
  | nil => exact ⟨empty, rfl, records_empty⟩
  | append_singleton ds x ih =>
    obtain ⟨hds, hx⟩ := h.concat
    obtain ⟨i, hi, hrecords⟩ := ih hds
    rw [ofDeclarations_concat, hi]
    exact add_records hx hrecords

theorem names_concat (ds : List Scanned) (x : Scanned) :
    names (ds ++ [x]) = names ds ++ [x.2.name] := by
  rw [names, List.map_append]
  rfl

theorem nodup_names_concat_iff :
    (names (ds ++ [x])).Nodup ↔ (names ds).Nodup ∧ x.2.name ∉ names ds := by
  rw [names_concat, ← List.concat_eq_append, List.nodup_concat]
  exact and_comm

/-- Without a name declared twice, it makes no difference what is done about one. -/
theorem ofDeclarations_of_nodup (h : Packaged ds) (hnodup : (names ds).Nodup) :
    ∃ i, (∀ policy, ofDeclarations policy ds = .ok i) ∧ Records ds i ∧ i.collisionMap = ∅ := by
  induction ds using List.reverseRecOn with
  | nil => exact ⟨empty, fun _ => rfl, records_empty, rfl⟩
  | append_singleton ds x ih =>
    obtain ⟨hds, hx⟩ := h.concat
    obtain ⟨hnames, hnew⟩ := nodup_names_concat_iff.mp hnodup
    obtain ⟨i, hi, hrecords, hnone⟩ := ih hds hnames
    refine ⟨_, fun policy => ?_, hrecords.insert_new hnew, hnone⟩
    rw [ofDeclarations_concat, hi policy]
    exact add_new hx (hrecords.entry_none_iff.mpr hnew)

/-! ### The first repeated name -/

theorem FirstRepeat.concat {previous file : Path} (h : FirstRepeat ds name previous file)
    (x : Scanned) : FirstRepeat (ds ++ [x]) name previous file := by
  obtain ⟨hnodup, hmem, hname⟩ := h
  rw [List.append_assoc, List.cons_append]
  exact .of hnodup hmem hname

theorem nodup_or_firstRepeat (ds : List Scanned) :
    (names ds).Nodup ∨ ∃ name previous file, FirstRepeat ds name previous file := by
  induction ds using List.reverseRecOn with
  | nil => exact Or.inl List.nodup_nil
  | append_singleton ds x ih =>
    rcases ih with hnodup | ⟨name, previous, file, hrepeat⟩
    · by_cases hmem : x.2.name ∈ names ds
      · obtain ⟨⟨previous, d⟩, hd, hname⟩ := List.mem_map.mp hmem
        exact Or.inr ⟨x.2.name, previous, x.1, .of hnodup hd hname⟩
      · exact Or.inl (nodup_names_concat_iff.mpr ⟨hnodup, hmem⟩)
    · exact Or.inr ⟨name, previous, file, hrepeat.concat x⟩

theorem FirstRepeat.not_nodup {previous file : Path} (h : FirstRepeat ds name previous file) :
    ¬(names ds).Nodup := by
  obtain ⟨-, hmem, hname⟩ := h
  intro hnodup
  rw [names, List.map_append, List.map_cons] at hnodup
  exact List.disjoint_of_nodup_append hnodup (List.mem_map.mpr ⟨_, hmem, hname⟩) List.mem_cons_self

/-- The only declaration of a name is the last one. -/
theorem getLast?_declaring_of_alone (h : x ∈ ds) (halone : ∀ y ∈ ds, y.2.name = x.2.name → y = x) :
    (declaring x.2.name ds).getLast? = some x := by
  have hne : declaring x.2.name ds ≠ [] := mem_names_iff.mp (List.mem_map_of_mem h)
  obtain ⟨y, hy⟩ := Option.ne_none_iff_exists'.mp (mt List.getLast?_eq_none_iff.mp hne)
  obtain ⟨hmem, hname⟩ := List.mem_filter.mp (List.mem_of_getLast? hy)
  rw [hy, halone y hmem (of_decide_eq_true hname)]

/-- In declarations of different names, each one is the only one of its name. -/
theorem getLast?_declaring (hnodup : (names ds).Nodup) (h : x ∈ ds) :
    (declaring x.2.name ds).getLast? = some x :=
  getLast?_declaring_of_alone h fun _ hy hname => List.inj_on_of_nodup_map hnodup hy h hname

/-- **The error is about the earliest declaration of a name that was declared before.** -/
theorem ofDeclarations_of_firstRepeat (h : Packaged ds) {previous file : Path}
    (hrepeat : FirstRepeat ds name previous file) :
    ofDeclarations .error ds = .error (clash name previous file) := by
  obtain @⟨before, after, previous, file, d, d', hnodup, hmem, hname⟩ := hrepeat
  have hbefore : Packaged before := fun y hy => h y (List.mem_append_left _ hy)
  obtain ⟨i, hi, hrecords, -⟩ := ofDeclarations_of_nodup hbefore hnodup
  have hentry : i.entries.get? d'.name = some ⟨d.qualifiedName, previous⟩ := by
    rw [hrecords.entry, ← hname, getLast?_declaring hnodup hmem]
    rfl
  have hpackage : d'.package.isSome := h (file, d') (List.mem_append_right _ List.mem_cons_self)
  have hrefused := add_refused (x := (file, d')) hpackage hentry
  rw [ofDeclarations_append, hi .error]
  refine Eq.trans (b := i.add .error file d' >>= fun j =>
    after.foldlM (fun i x => i.add .error x.1 x.2) j) rfl ?_
  rw [hrefused]
  rfl

/-! ### What the maps say -/

theorem Records.resolve (h : Records ds i) (name : String) :
    i.resolve? name = (declaring name ds).getLast?.map (·.2.qualifiedName) := by
  rw [resolve?, h.entry, Option.map_map]
  rfl

theorem Records.size (h : Records ds i) : i.size = (names ds).dedup.length := by
  have hperm : i.entries.keys.Perm (names ds).dedup := by
    rw [List.perm_ext_iff_of_nodup i.entries.keys_nodup (List.nodup_dedup _)]
    intro name
    rw [StringMap.mem_keys_iff, List.mem_dedup, Option.isSome_iff_ne_none, ne_eq, h.entry_none_iff,
      not_not]
  rw [← hperm.length_eq, StringMap.keys, List.length_map]
  rfl

theorem Records.mem_collisions (h : Records ds i) (c : Collision) : c ∈ i.collisions ↔
    2 ≤ (names ds).count c.simpleName ∧ c = collisionOf c.simpleName ds := by
  rw [collisions, StringMap.mem_values_iff, count_names]
  constructor
  · rintro ⟨name, hc⟩
    rw [h.collision, Option.ite_none_right_eq_some] at hc
    obtain ⟨hmany, hc⟩ := hc
    obtain rfl := Option.some.inj hc
    exact ⟨hmany, rfl⟩
  · rintro ⟨hmany, hc⟩
    exact ⟨c.simpleName, by rw [h.collision, if_pos hmany, ← hc]⟩

theorem Records.ordered (h : Records ds i) : i.collisions.Pairwise fun a b =>
    Text.bytesOf a.simpleName < Text.bytesOf b.simpleName := by
  -- a collision has the name it is held under
  have hkey (p : String × Collision) (hp : p ∈ i.collisionMap.toList) : p.2.simpleName = p.1 := by
    have hc := StringMap.get?_eq_some_iff.mpr hp
    rw [h.collision, Option.ite_none_right_eq_some] at hc
    rw [← Option.some.inj hc.2, collisionOf]
  rw [collisions, StringMap.values, List.pairwise_map]
  refine i.collisionMap.sorted.imp_of_mem fun {p q} hp hq hlt => ?_
  rw [hkey p hp, hkey q hq]
  exact Text.lt_iff_bytesOf_lt.mp hlt

theorem records_indexes (h : Records ds i) : Indexes ds i where
  resolve := h.resolve
  resolves := by
    intro name
    rw [h.resolve, Option.isSome_map, Option.isSome_iff_ne_none, ne_eq, List.getLast?_eq_none_iff,
      mem_names_iff]
  size := h.size
  ordered := h.ordered
  mem_collisions := h.mem_collisions
  last := by
    intro c hc
    obtain ⟨hmany, hall⟩ := (h.mem_collisions c).mp hc
    have hne : declaring c.simpleName ds ≠ [] := by
      rw [count_names] at hmany
      exact List.ne_nil_of_length_pos (by omega)
    obtain ⟨x, hlast⟩ := Option.ne_none_iff_exists'.mp (mt List.getLast?_eq_none_iff.mp hne)
    have hnames : c.qualifiedNames = (declaring c.simpleName ds).map (·.2.qualifiedName) :=
      congrArg Collision.qualifiedNames hall
    have hfiles : c.files = (declaring c.simpleName ds).map (·.1) := congrArg Collision.files hall
    refine ⟨entryOf x, ?_, ?_, ?_⟩
    · rw [h.entry, hlast]
      rfl
    · rw [hnames, List.getLast?_map, hlast]
      rfl
    · rw [hfiles, List.getLast?_map, hlast]
      rfl

/-! ### The index of a project -/

theorem ofDeclarations_error_iff (h : Packaged ds) (e : ConfigError) :
    ofDeclarations .error ds = .error e ↔
      ∃ name previous file, FirstRepeat ds name previous file ∧ e = clash name previous file := by
  constructor
  · intro he
    rcases nodup_or_firstRepeat ds with hnodup | ⟨name, previous, file, hrepeat⟩
    · obtain ⟨i, hi, -⟩ := ofDeclarations_of_nodup h hnodup
      rw [hi .error] at he
      cases he
    · rw [ofDeclarations_of_firstRepeat h hrepeat] at he
      exact ⟨name, previous, file, hrepeat, (Except.error.inj he).symm⟩
  · rintro ⟨name, previous, file, hrepeat, rfl⟩
    exact ofDeclarations_of_firstRepeat h hrepeat

theorem exists_error_iff (h : Packaged ds) :
    (∃ e, ofDeclarations .error ds = .error e) ↔ ¬(names ds).Nodup := by
  constructor
  · rintro ⟨e, he⟩
    obtain ⟨_, _, _, hrepeat, -⟩ := (ofDeclarations_error_iff h e).mp he
    exact hrepeat.not_nodup
  · intro hnot
    obtain ⟨name, previous, file, hrepeat⟩ := (nodup_or_firstRepeat ds).resolve_left hnot
    exact ⟨_, ofDeclarations_of_firstRepeat h hrepeat⟩

/-- Where no name is refused, the index is that of the last declarations. -/
theorem lastWins_of_error_ok (h : Packaged ds) (hi : ofDeclarations .error ds = .ok i) :
    ofDeclarations .lastWins ds = .ok i ∧ i.collisions = [] := by
  have hnodup : (names ds).Nodup := by
    by_contra hnot
    obtain ⟨e, he⟩ := (exists_error_iff h).mpr hnot
    rw [hi] at he
    cases he
  obtain ⟨j, hj, -, hnone⟩ := ofDeclarations_of_nodup h hnodup
  obtain rfl : j = i := Except.ok.inj ((hj .error).symm.trans hi)
  refine ⟨hj .lastWins, ?_⟩
  rw [collisions, hnone]
  rfl

/-- An index that was built holds the last declarations, whatever is done about a second one. -/
theorem records_of_ofDeclarations {policy : CollisionPolicy}
    (hi : ofDeclarations policy ds = .ok i) :
    ofDeclarations .lastWins ds = .ok i ∧ Records (packaged ds) i := by
  have hpackaged : Packaged (packaged ds) := packaged_packaged ds
  rw [ofDeclarations_packaged] at hi ⊢
  have hlast : ofDeclarations .lastWins (packaged ds) = .ok i := by
    cases policy with
    | lastWins => exact hi
    | error => exact (lastWins_of_error_ok hpackaged hi).1
  obtain ⟨j, hj, hrecords⟩ := ofDeclarations_lastWins hpackaged
  obtain rfl : j = i := Except.ok.inj (hj.symm.trans hlast)
  exact ⟨hlast, hrecords⟩

/-- The declarations of packages in files are those that are found in the texts of the files that can
be read. -/
theorem mem_packaged_declarationIn?_iff {t : FileTree} {files : List Path} :
    x ∈ packaged (files.filterMap (declarationIn? t)) ↔
      x.1 ∈ files ∧ ∃ text, t.readText x.1 = .ok text ∧ Java.scanDeclaration text = some x.2 ∧
        x.2.package.isSome = true := by
  rw [packaged, List.mem_filter, List.mem_filterMap]
  constructor
  · rintro ⟨⟨file, hfile, hx⟩, hpackage⟩
    obtain ⟨text, hread, hscan, rfl⟩ := declarationIn?_eq_some_iff.mp hx
    exact ⟨hfile, text, hread, hscan, hpackage⟩
  · rintro ⟨hfile, text, hread, hscan, hpackage⟩
    exact ⟨⟨x.1, hfile, declarationIn?_eq_some_iff.mpr ⟨text, hread, hscan, rfl⟩⟩, hpackage⟩

/-- The declarations of packages are in the order of their files. -/
theorem pairwise_packaged_declarationIn? {t : FileTree} {files : List Path} {R : Path → Path → Prop}
    (h : files.Pairwise R) :
    (packaged (files.filterMap (declarationIn? t))).Pairwise fun x y => R x.1 y.1 := by
  refine (List.pairwise_filterMap.mpr (h.imp fun {p q} hpq x hx y hy => ?_)).filter _
  obtain ⟨-, -, -, rfl⟩ := declarationIn?_eq_some_iff.mp hx
  obtain ⟨-, -, -, rfl⟩ := declarationIn?_eq_some_iff.mp hy
  exact hpq

/-- **The index of the files that are found.** They are in the order of their paths, and so are the
declarations of packages in those of them that can be read. If the last one wins, the index holds it
for each name, with all names declared more than once. If a second one is an error, it is about the
earliest one, and without one nothing else is different. -/
theorem ofFiles_discover (t : FileTree) (root : Path) (included excluded : List String) :
    let files := discover t root included excluded
    let ds := packaged (files.filterMap (declarationIn? t))
    files.Pairwise (fun p q => p.compare q = .lt) ∧
      ds.Pairwise (fun x y => x.1.compare y.1 = .lt) ∧
      (∀ x, x ∈ ds ↔ x.1 ∈ files ∧ ∃ text, t.readText x.1 = .ok text ∧
        Java.scanDeclaration text = some x.2 ∧ x.2.package.isSome = true) ∧
      (∃ i, ofFiles .lastWins t files = .ok i ∧ Indexes ds i) ∧
      ((∃ e, ofFiles .error t files = .error e) ↔ ¬(names ds).Nodup) ∧
      (∀ e, ofFiles .error t files = .error e ↔
        ∃ name previous file, FirstRepeat ds name previous file ∧ e = clash name previous file) ∧
      ∀ i, ofFiles .error t files = .ok i →
        ofFiles .lastWins t files = .ok i ∧ i.collisions = [] := by
  intro files ds
  have hds : Packaged ds := packaged_packaged _
  have hfiles (policy : CollisionPolicy) : ofFiles policy t files = ofDeclarations policy ds := by
    rw [ofFiles, ofDeclarations_packaged]
  simp only [hfiles]
  have hordered : files.Pairwise fun p q => p.compare q = .lt :=
    pairwise_discover t root included excluded
  obtain ⟨i, hi, hrecords⟩ := ofDeclarations_lastWins hds
  exact ⟨hordered, pairwise_packaged_declarationIn? hordered,
    fun _ => mem_packaged_declarationIn?_iff, ⟨i, hi, records_indexes hrecords⟩,
    exists_error_iff hds, ofDeclarations_error_iff hds, fun i => lastWins_of_error_ok hds⟩

end Testsmith.SymbolIndex
