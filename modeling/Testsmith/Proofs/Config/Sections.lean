/-
# Written sections read back

A document is written as sections: a header, and a line for each key that has a value. Line by line
it is read as that (`Reads`), and the lines are taken up as one table for each section, with the
keys and the values they state. Keys without a value are not written, and so are not in the table.

Key definitions: `Config.Fields`, `Config.Stated`, `Config.Reads`.
Key theorems: `Config.reads_sections`, `Config.foldlM_linesOfAll`, `Config.parse?_sections`,
`Config.fieldsOf?_values`.
-/
import Testsmith.Proofs.Config.Values
import Mathlib.Data.List.Nodup

namespace Testsmith.Config

open Toml

/-- The keys of a section; for each that has a value what is written, and the value. -/
abbrev Fields := List (String × Option (String × Value))

/-- What is written for each key. -/
def written (fs : Fields) : List (String × Option String) :=
  fs.map fun f => (f.1, f.2.map (·.1))

/-- The keys that have a value, and these values. -/
def values (fs : Fields) : Entries := fs.filterMap fun f => f.2.map fun x => (f.1, x.2)

/-- A key that is written without quotes. -/
def IsKey (k : String) : Prop := k.toList ≠ [] ∧ ∀ c ∈ k.toList, isKeyChar c = true

instance (k : String) : Decidable (IsKey k) :=
  decidable_of_iff (k.toList ≠ [] ∧ k.toList.all isKeyChar = true)
    (Iff.and Iff.rfl List.all_eq_true)

/-- What is written for a key, if anything, states its value. -/
def FieldStates (field : Option (String × Value)) : Prop :=
  ∀ x ∈ field, States (depthLimit - 1) x.1 x.2

/-- Every key is different, and what is written for it states its value. -/
structure Stated (fs : Fields) : Prop where
  keys : ∀ f ∈ fs, IsKey f.1
  nodup : (fs.map (·.1)).Nodup
  states : ∀ f ∈ fs, FieldStates f.2

/-! ### Keys and lines -/

theorem ne_of_isKeyChar {c d : Char} (hc : isKeyChar c = true) (hd : isKeyChar d = false) :
    c ≠ d := by
  rintro rfl
  exact Bool.false_ne_true (hd.symm.trans hc)

theorem isPlain_of_isKeyChar {c : Char} (h : isKeyChar c = true) : isPlain c = true := by
  cases hcontrol : isControl c with
  | false => exact isPlain_of_not_control hcontrol (ne_of_isKeyChar h (by decide))
  | true =>
    have hlow : ∀ n < 128, isControl (Char.ofNat n) = true → isKeyChar (Char.ofNat n) = false := by
      decide
    have hnot := hlow c.toNat (toNat_lt_of_isControl hcontrol)
    rw [Char.ofNat_toNat] at hnot
    exact absurd (hnot hcontrol) (by simp [h])

theorem isStart_of_isKeyChar {c : Char} (h : isKeyChar c = true) : IsStart c := by
  refine ⟨isPlain_of_isKeyChar h, ?_, ne_of_isKeyChar h (by decide)⟩
  rw [isBlank, Bool.or_eq_false_iff, beq_eq_false_iff_ne, beq_eq_false_iff_ne]
  exact ⟨ne_of_isKeyChar h (by decide), ne_of_isKeyChar h (by decide)⟩

theorem IsKey.exists_cons {k : String} (hk : IsKey k) :
    ∃ c cs, k.toList = c :: cs ∧ isKeyChar c = true := by
  obtain ⟨c, cs, hcs⟩ := List.exists_cons_of_ne_nil hk.1
  exact ⟨c, cs, hcs, hk.2 c (by rw [hcs]; exact List.mem_cons_self)⟩

theorem readSimpleKey_key {k : String} (hk : IsKey k) {more : List Char}
    (hmore : ∀ d ∈ more.head?, isKeyChar d = false) :
    readSimpleKey (k.toList ++ more) = some (k, more) := by
  have htake : (k.toList ++ more).takeWhile isKeyChar = k.toList := by
    rw [List.takeWhile_append_of_pos hk.2]
    cases more with
    | nil => rw [List.takeWhile_nil, List.append_nil]
    | cons d more =>
      rw [List.takeWhile_cons_of_neg (by simp [hmore d rfl]), List.append_nil]
  have hdrop : (k.toList ++ more).dropWhile isKeyChar = more := by
    rw [List.dropWhile_append_of_pos hk.2]
    cases more with
    | nil => rfl
    | cons d more => rw [List.dropWhile_cons_of_neg (by simp [hmore d rfl])]
  obtain ⟨c, cs, hcs, hc⟩ := hk.exists_cons
  rw [readSimpleKey.eq_def]
  split
  · rename_i heq
    rw [hcs] at heq
    exact absurd (List.cons.inj heq).1 (ne_of_isKeyChar hc (by decide))
  · rename_i heq
    rw [hcs] at heq
    exact absurd (List.cons.inj heq).1 (ne_of_isKeyChar hc (by decide))
  · rw [htake, hdrop, if_neg (by simpa using hk.1), String.ofList_toList]

/-- A key without points is read up to what follows it, blanks left out. -/
theorem readKey_key {k : String} (hk : IsKey k) {c : Char} {more cs : List Char}
    (hmore : ∀ d ∈ more.head?, isKeyChar d = false) (hskip : skipBlanks more = c :: cs)
    (hdot : c ≠ '.') : readKey (k.toList ++ more) = some (([], k), c :: cs) := by
  have hblanks : skipBlanks (k.toList ++ more) = k.toList ++ more := by
    obtain ⟨d, ds, hds, hd⟩ := hk.exists_cons
    rw [hds]
    exact skipBlanks_start (isStart_of_isKeyChar hd) 0 _
  have hparts : readKeyParts (depthLimit - 1) (k.toList ++ more) = some ([k], c :: cs) := by
    rw [show depthLimit - 1 = 78 + 1 from rfl, readKeyParts, hblanks, readSimpleKey_key hk hmore]
    simp only [Option.bind_eq_bind, Option.bind_some, hskip]
    split
    · rename_i heq
      exact absurd (List.cons.inj heq).1 hdot
    · rfl
  rw [readKey, hparts]
  rfl

/-- A line that begins with a plain character, and not with a comment, is not blank. -/
theorem readLineOf_start {c : Char} (h : IsStart c) {cs next : List Char} {line : Line}
    (hread : readStatement (c :: cs) = some (line, '\n' :: next)) :
    readLineOf (c :: cs) = some (line, next) := by
  have hskip : skipBlanks (c :: cs) = c :: cs := skipBlanks_start h 0 cs
  have hcomment : afterComment (c :: cs) = c :: cs := by
    rw [afterComment.eq_def]
    split
    · rename_i heq
      exact absurd (List.cons.inj heq).1 h.2.2
    · rfl
  have hnot : afterLine? (c :: cs) = none := by
    rw [afterLine?, hskip, hcomment]
    exact afterNewline?_of_isPlain h.1 cs
  rw [readLineOf, hnot, hskip, hread]
  rfl

theorem readLineOf_blank (rest : List Char) : readLineOf ('\n' :: rest) = some (.blank, rest) := rfl

theorem readLineOf_header {name : String} (hname : IsKey name) (rest : List Char) :
    readLineOf ('[' :: (name.toList ++ ']' :: '\n' :: rest)) = some (.header [] name, rest) := by
  have hkey : readKey (name.toList ++ ']' :: '\n' :: rest) =
      some (([], name), ']' :: '\n' :: rest) :=
    readKey_key hname (by simp; decide) rfl (by decide)
  refine readLineOf_start (by decide) ?_
  obtain ⟨c, cs, hcs, hc⟩ := hname.exists_cons
  rw [readStatement.eq_def]
  split
  · rename_i heq
    rw [hcs] at heq
    exact absurd (List.cons.inj (List.cons.inj heq).2).1 (ne_of_isKeyChar hc (by decide))
  · rename_i heq
    obtain rfl := (List.cons.inj heq).2
    rw [hkey]
    rfl
  · rename_i hnot
    exact absurd rfl (hnot _)

theorem readLineOf_pair {k text : String} {v : Value} (hk : IsKey k)
    (hv : States (depthLimit - 1) text v) (rest : List Char) :
    readLineOf (k.toList ++ ' ' :: '=' :: ' ' :: (text.toList ++ '\n' :: rest)) =
      some (.pair [] k v, rest) := by
  have hkey : readKey (k.toList ++ ' ' :: '=' :: ' ' :: (text.toList ++ '\n' :: rest)) =
      some (([], k), '=' :: ' ' :: (text.toList ++ '\n' :: rest)) :=
    readKey_key hk (by simp; decide) rfl (by decide)
  have hvalue := hv ('\n' :: rest) ⟨'\n', rest, rfl, by decide⟩
  have hpair : readPair (readValue (depthLimit - 1))
      (k.toList ++ ' ' :: '=' :: ' ' :: (text.toList ++ '\n' :: rest)) =
        some ((([], k), v), '\n' :: rest) := by
    have hskip : skipBlanks (' ' :: (text.toList ++ '\n' :: rest)) = text.toList ++ '\n' :: rest :=
      hv.skipBlanks _
    rw [readPair, hkey]
    simp only [Option.bind_eq_bind, Option.bind_some, hskip, hvalue]
    rfl
  obtain ⟨c, cs, hcs, hc⟩ := hk.exists_cons
  rw [hcs, List.cons_append] at hpair ⊢
  refine readLineOf_start (isStart_of_isKeyChar hc) ?_
  rw [readStatement.eq_def]
  split
  · rename_i heq
    exact absurd (List.cons.inj heq).1 (ne_of_isKeyChar hc (by decide))
  · rename_i heq
    exact absurd (List.cons.inj heq).1 (ne_of_isKeyChar hc (by decide))
  · rw [hpair]
    rfl

/-! ### Documents -/

/-- The text is read as the lines. -/
def Reads (text : List Char) (lines : List Line) : Prop :=
  ∀ bound, text.length ≤ bound → readDocument bound text = some lines

theorem reads_nil : Reads [] [] := by
  intro bound _
  rw [readDocument]

theorem Reads.cons {text rest : List Char} {line : Line} {lines : List Line}
    (hline : readLineOf text = some (line, rest)) (hlength : rest.length < text.length)
    (h : Reads rest lines) : Reads text (line :: lines) := by
  rintro (- | bound) hbound
  · omega
  · cases text with
    | nil => cases hlength
    | cons c text =>
      rw [List.length_cons] at hbound hlength
      rw [readDocument, hline]
      · simp only [Option.bind_eq_bind, Option.bind_some]
        rw [h bound (by omega)]
        rfl
      · exact List.cons_ne_nil c text

/-- The lines of a section. -/
def linesOf (name : String) (fs : Fields) : List Line :=
  .header [] name :: (values fs).map fun (k, v) => .pair [] k v

/-- The lines of keys with their values. -/
def pairsText (fs : Fields) : String :=
  String.join ((written fs).filterMap fun (key, v) => v.map fun v => key ++ " = " ++ v ++ "\n")

theorem Stated.tail {f : String × Option (String × Value)} {fs : Fields} (h : Stated (f :: fs)) :
    Stated fs where
  keys := fun g hg => h.keys g (List.mem_cons_of_mem _ hg)
  nodup := (List.nodup_cons.mp h.nodup).2
  states := fun g hg => h.states g (List.mem_cons_of_mem _ hg)

theorem reads_pairs {rest : List Char} {lines : List Line} (h : Reads rest lines) :
    ∀ {fs : Fields}, Stated fs → Reads ((pairsText fs).toList ++ rest)
      ((values fs).map (fun (k, v) => .pair [] k v) ++ lines)
  | [], _ => h
  | (k, none) :: fs, hfs => by
    have ih := reads_pairs h hfs.tail
    exact ih
  | (k, some (text, v)) :: fs, hfs => by
    have ih := reads_pairs h hfs.tail
    have hk : IsKey k := hfs.keys _ List.mem_cons_self
    have hv : States (depthLimit - 1) text v := hfs.states _ List.mem_cons_self _ rfl
    have hequals : " = ".toList = [' ', '=', ' '] := rfl
    have hend : "\n".toList = ['\n'] := rfl
    have htext : (pairsText ((k, some (text, v)) :: fs)).toList ++ rest =
        k.toList ++ ' ' :: '=' :: ' ' ::
          (text.toList ++ '\n' :: ((pairsText fs).toList ++ rest)) := by
      have hjoin : pairsText ((k, some (text, v)) :: fs) =
          k ++ " = " ++ text ++ "\n" ++ pairsText fs := String.join_cons
      rw [hjoin]
      simp only [String.toList_append, hequals, hend, List.append_assoc, List.cons_append,
        List.nil_append]
    rw [htext]
    refine Reads.cons (readLineOf_pair hk hv _) ?_ ih
    simp only [List.length_append, List.length_cons]
    omega

theorem reads_section {name : String} (hname : IsKey name) {fs : Fields} (hfs : Stated fs)
    {rest : List Char} {lines : List Line} (h : Reads rest lines) :
    Reads ((writeSection name (written fs)).toList ++ rest) (linesOf name fs ++ lines) := by
  have hopen : "[".toList = ['['] := rfl
  have hclose : "]\n".toList = [']', '\n'] := rfl
  have htext : (writeSection name (written fs)).toList ++ rest =
      '[' :: (name.toList ++ ']' :: '\n' :: ((pairsText fs).toList ++ rest)) := by
    rw [writeSection, ← pairsText]
    simp only [String.toList_append, hopen, hclose, List.append_assoc, List.cons_append,
      List.nil_append]
  rw [htext]
  refine Reads.cons (readLineOf_header hname _) ?_ (reads_pairs h hfs)
  simp only [List.length_append, List.length_cons]
  omega

/-- The text of sections, with a blank line between. -/
def textOf (sections : List (String × Fields)) : String :=
  "\n".intercalate (sections.map fun s => writeSection s.1 (written s.2))

/-- The lines of sections, with a blank one between. -/
def linesOfAll : List (String × Fields) → List Line
  | [] => []
  | [s] => linesOf s.1 s.2
  | s :: t :: more => linesOf s.1 s.2 ++ .blank :: linesOfAll (t :: more)

theorem reads_sections : ∀ {sections : List (String × Fields)},
    (∀ s ∈ sections, IsKey s.1 ∧ Stated s.2) → Reads (textOf sections).toList (linesOfAll sections)
  | [], _ => reads_nil
  | [s], h => by
    obtain ⟨hname, hfs⟩ := h s List.mem_cons_self
    have hread := reads_section hname hfs reads_nil
    rwa [List.append_nil, List.append_nil] at hread
  | s :: t :: more, h => by
    obtain ⟨hname, hfs⟩ := h s List.mem_cons_self
    have ih := reads_sections fun u hu => h u (List.mem_cons_of_mem _ hu)
    have hblank : Reads ('\n' :: (textOf (t :: more)).toList) (.blank :: linesOfAll (t :: more)) :=
      Reads.cons (readLineOf_blank _) (Nat.lt_succ_self _) ih
    have htext : (textOf (s :: t :: more)).toList =
        (writeSection s.1 (written s.2)).toList ++ '\n' :: (textOf (t :: more)).toList := by
      have hend : "\n".toList = ['\n'] := rfl
      have hjoin : textOf (s :: t :: more) =
          writeSection s.1 (written s.2) ++ "\n" ++ textOf (t :: more) :=
        String.intercalate_cons_cons
      rw [hjoin, String.toList_append, String.toList_append, hend, List.append_assoc,
        List.singleton_append]
    rw [htext]
    exact reads_section hname hfs hblank

/-! ### Tables -/

/-- The table of each section. -/
def tables (sections : List (String × Fields)) : Entries :=
  sections.map fun s => (s.1, .table .header (values s.2))

theorem assign_append {key : String} {v w : Value} : ∀ {es : Entries}, es.lookup key = none →
    assign key v (es ++ [(key, w)]) = es ++ [(key, v)]
  | [], _ => by rw [List.nil_append, assign, if_pos rfl, List.nil_append]
  | (k, u) :: es, h => by
    rw [List.lookup_cons] at h
    by_cases hk : key = k
    · rw [hk] at h
      simp at h
    · rw [beq_false_of_ne hk] at h
      rw [List.cons_append, assign, if_neg (Ne.symm hk), assign_append h, List.cons_append]

theorem lookup_append_self {key : String} {v : Value} {es : Entries} (h : es.lookup key = none) :
    (es ++ [(key, v)]).lookup key = some v := by
  rw [List.lookup_append, h]
  simp

theorem lookup_of_not_mem {key : String} {es : Entries} (h : key ∉ es.map (·.1)) :
    es.lookup key = none := by
  refine List.lookup_eq_none_iff.mpr fun p hp => ?_
  rw [bne_iff_ne]
  rintro rfl
  exact h (List.mem_map_of_mem hp)

theorem lookup_of_nodup {key : String} {v : Value} {es more : Entries}
    (h : ((es ++ (key, v) :: more).map (·.1)).Nodup) : es.lookup key = none := by
  rw [List.map_append, List.map_cons] at h
  exact lookup_of_not_mem fun hmem =>
    List.disjoint_of_nodup_append h hmem List.mem_cons_self

/-- A line with a key adds to the table under way. -/
theorem add_pair {name k : String} {es acc : Entries} (hname : es.lookup name = none)
    (hk : acc.lookup k = none) (v : Value) :
    State.add ⟨[name], es ++ [(name, .table .header acc)]⟩ (.pair [] k v) =
      some ⟨[name], es ++ [(name, .table .header (acc ++ [(k, v)]))]⟩ := by
  have hinsert : insertAt [] k v acc = some (acc ++ [(k, v)]) := by
    rw [insertAt, changeAt, hk]
    rfl
  have hunder : insertUnder [name] [] k v (es ++ [(name, .table .header acc)]) =
      some (es ++ [(name, .table .header (acc ++ [(k, v)]))]) := by
    rw [insertUnder, changeAt, lookup_append_self hname]
    simp only [changeAt, hinsert, Option.bind_eq_bind, Option.bind_some]
    rw [if_neg (by decide), assign_append hname]
    rfl
  rw [State.add, hunder]
  rfl

theorem foldlM_pairs {name : String} {es : Entries} (hname : es.lookup name = none) :
    ∀ (kvs acc : Entries), ((acc ++ kvs).map (·.1)).Nodup →
      (kvs.map fun (k, v) => Line.pair [] k v).foldlM State.add
        ⟨[name], es ++ [(name, .table .header acc)]⟩ =
          some ⟨[name], es ++ [(name, .table .header (acc ++ kvs))]⟩
  | [], acc, _ => by
    rw [List.append_nil]
    rfl
  | (k, v) :: kvs, acc, h => by
    have ih := foldlM_pairs hname kvs (acc ++ [(k, v)]) (by rwa [← List.append_cons])
    rw [← List.append_cons] at ih
    rw [List.map_cons, List.foldlM_cons, add_pair hname (lookup_of_nodup h)]
    exact ih

theorem keys_values_sublist : ∀ fs : Fields, ((values fs).map (·.1)).Sublist (fs.map (·.1))
  | [] => List.Sublist.slnil
  | (k, none) :: fs => (keys_values_sublist fs).cons k
  | (k, some _) :: fs => (keys_values_sublist fs).cons_cons k

/-- The lines of a section are taken up as one more table. -/
theorem foldlM_linesOf {name : String} {fs : Fields} (hfs : (fs.map (·.1)).Nodup) {es : Entries}
    (hname : es.lookup name = none) (path : List String) :
    (linesOf name fs).foldlM State.add ⟨path, es⟩ =
      some ⟨[name], es ++ [(name, .table .header (values fs))]⟩ := by
  have hopen : openTable [] name es = some (es ++ [(name, .table .header [])]) := by
    rw [openTable, changeAt, hname]
  have hheader : State.add ⟨path, es⟩ (.header [] name) =
      some ⟨[name], es ++ [(name, .table .header [])]⟩ := by
    rw [State.add, hopen]
    rfl
  rw [linesOf, List.foldlM_cons, hheader]
  exact foldlM_pairs hname (values fs) [] (hfs.sublist (keys_values_sublist fs))

theorem foldlM_linesOfAll : ∀ (sections : List (String × Fields)) (path : List String)
    (es : Entries), (∀ s ∈ sections, Stated s.2) → ((es ++ tables sections).map (·.1)).Nodup →
      ∃ path', (linesOfAll sections).foldlM State.add ⟨path, es⟩ =
        some ⟨path', es ++ tables sections⟩
  | [], path, es, _, _ => ⟨path, by rw [tables, List.map_nil, List.append_nil]; rfl⟩
  | [s], path, es, h, hnodup => by
    have hs := h s List.mem_cons_self
    exact ⟨[s.1], foldlM_linesOf hs.nodup (lookup_of_nodup hnodup) path⟩
  | s :: t :: more, path, es, h, hnodup => by
    have hs := h s List.mem_cons_self
    have hsection := foldlM_linesOf hs.nodup (lookup_of_nodup hnodup) path
    have hcons : es ++ tables (s :: t :: more) =
        es ++ [(s.1, .table .header (values s.2))] ++ tables (t :: more) :=
      List.append_cons es (s.1, .table .header (values s.2)) (tables (t :: more))
    rw [hcons] at hnodup ⊢
    obtain ⟨path', hmore⟩ := foldlM_linesOfAll (t :: more) [s.1]
      (es ++ [(s.1, .table .header (values s.2))]) (fun u hu => h u (List.mem_cons_of_mem _ hu))
      hnodup
    refine ⟨path', ?_⟩
    rw [linesOfAll, List.foldlM_append, hsection]
    exact hmore

/-- **A document of sections is read as their tables.** -/
theorem parse?_sections {s : String × Fields} {more : List (String × Fields)}
    (h : ∀ t ∈ s :: more, IsKey t.1 ∧ Stated t.2) (hnodup : ((s :: more).map (·.1)).Nodup) :
    parse? (textOf (s :: more)) = some (tables (s :: more)) := by
  have hread := reads_sections h _ (Nat.le_refl _)
  have hnames : (tables (s :: more)).map (·.1) = (s :: more).map (·.1) := List.map_map
  obtain ⟨path, hfold⟩ := foldlM_linesOfAll (s :: more) [] [] (fun t ht => (h t ht).2)
    (by rwa [List.nil_append, hnames])
  have hmark : afterMark (textOf (s :: more)).toList = (textOf (s :: more)).toList := by
    rw [textOf, List.map_cons, writeSection, String.append_assoc, String.append_assoc,
      String.intercalate_cons_append, String.toList_append]
    rfl
  rw [parse?, hmark, hread]
  simp only [Option.bind_eq_bind, Option.bind_some]
  rw [hfold]
  rfl

theorem lookup_values : ∀ {fs : Fields}, (fs.map (·.1)).Nodup → ∀ f ∈ fs,
    (values fs).lookup f.1 = f.2.map (·.2)
  | (k, o) :: fs, h, f, hf => by
    rw [List.map_cons, List.nodup_cons] at h
    have hvalues : values ((k, o) :: fs) = (o.map fun x => (k, x.2)).toList ++ values fs := by
      cases o <;> rfl
    rw [hvalues, List.lookup_append]
    rcases List.mem_cons.mp hf with rfl | hf
    · have hnone : (values fs).lookup k = none :=
        lookup_of_not_mem fun hmem => h.1 ((keys_values_sublist fs).subset hmem)
      cases o with
      | none => exact hnone
      | some x => simp
    · have hne : f.1 ≠ k := fun heq => h.1 (List.mem_map.mpr ⟨f, hf, heq⟩)
      have hskip : (o.map fun x => (k, x.2)).toList.lookup f.1 = none := by
        cases o with
        | none => rfl
        | some x => simpa using hne
      rw [hskip, Option.none_or, lookup_values h.2 f hf]

/-- **The keys of a section have the values of its fields.** -/
theorem fieldsOf?_values {fs : Fields} (h : (fs.map (·.1)).Nodup) (form : TableForm) :
    fieldsOf? (fs.map (·.1)) (.table form (values fs)) = some (fs.map fun f => f.2.map (·.2)) := by
  rw [fieldsOf?, List.map_map]
  exact congrArg some (List.map_congr_left fun f hf => lookup_values h f hf)

section Zip

variable {keys : List String} {fields : List (Option (String × Value))}

theorem keys_zip (h : keys.length = fields.length) : (keys.zip fields).map (·.1) = keys :=
  List.map_fst_zip (Nat.le_of_eq h)

theorem stated_zip (hkeys : ∀ k ∈ keys, IsKey k) (hnodup : keys.Nodup)
    (hlength : keys.length = fields.length)
    (h : ∀ field ∈ fields, FieldStates field) :
    Stated (keys.zip fields) where
  keys := fun _ hf => hkeys _ (List.of_mem_zip hf).1
  nodup := by rwa [keys_zip hlength]
  states := fun _ hf => h _ (List.of_mem_zip hf).2

theorem fieldsOf?_zip (hnodup : keys.Nodup) (hlength : keys.length = fields.length)
    (form : TableForm) :
    fieldsOf? keys (.table form (values (keys.zip fields))) =
      some (fields.map fun field => field.map (·.2)) := by
  have hread := @fieldsOf?_values (keys.zip fields) (by rwa [keys_zip hlength]) form
  have hsecond : (keys.zip fields).map (·.2) = fields :=
    List.map_snd_zip (Nat.le_of_eq hlength.symm)
  rw [keys_zip hlength] at hread
  rw [hread]
  conv_rhs => rw [← hsecond, List.map_map]
  rfl

end Zip

end Testsmith.Config
