import InboxAudit.Proofs.Toml.Values

/-!
# Documents read back

A document of sections whose names and keys are bare and distinct is read back as the tables of the
sections (`read?_print`). Every line moves the reader from one draft to the next (`Advances`): a
header adds an empty table behind the others, and a setting adds a value to the last table.
-/

namespace InboxAudit.Toml
set_option autoImplicit false

section Lists

variable {α β : Type} {f : α → Option β} {l : List α} {bs : List β}

theorem mapM_cons_eq_some {a : α} (all : (a :: l).mapM f = some bs) :
    ∃ b more, f a = some b ∧ l.mapM f = some more ∧ bs = b :: more := by
  simp only [List.mapM_cons, Option.bind_eq_bind, Option.pure_def, Option.bind_eq_some_iff,
    Option.some.injEq] at all
  obtain ⟨b, first, more, later, eq⟩ := all
  exact ⟨b, more, first, later, eq.symm⟩

theorem exists_of_mem_mapM (all : l.mapM f = some bs) {b : β} (mem : b ∈ bs) :
    ∃ a ∈ l, f a = some b := by
  induction l generalizing bs with
  | nil =>
    cases all
    cases mem
  | cons a l ih =>
    obtain ⟨first, more, found, rest, rfl⟩ := mapM_cons_eq_some all
    rcases List.mem_cons.1 mem with rfl | mem
    · exact ⟨a, List.mem_cons_self, found⟩
    · obtain ⟨other, mem, found⟩ := ih rest mem
      exact ⟨other, List.mem_cons_of_mem _ mem, found⟩

theorem isSome_mapM : (l.mapM f).isSome = true ↔ ∀ a ∈ l, (f a).isSome = true := by
  induction l with
  | nil => simp
  | cons a l ih =>
    rw [List.forall_mem_cons, ← ih, List.mapM_cons]
    cases f a <;> cases l.mapM f <;> simp

end Lists

section Keys

variable {name : String} {rest : List Char}

/-- The name may stand without quotes. -/
def IsBare (name : String) : Prop :=
  name.toList ≠ [] ∧ name.toList.all isKeyChar = true

instance (name : String) : Decidable (IsBare name) := inferInstanceAs (Decidable (_ ∧ _))

theorem IsBare.chars (bare : IsBare name) : ∀ c ∈ name.toList, isKeyChar c = true :=
  List.all_eq_true.1 bare.2

/-- A bare name begins with none of the characters that lead elsewhere. -/
theorem IsBare.exists_head (bare : IsBare name) : ∃ c more, name.toList = c :: more ∧
    ∀ mark, isKeyChar mark = false → c ≠ mark := by
  obtain ⟨c, more, chars⟩ := List.exists_cons_of_ne_nil bare.1
  refine ⟨c, more, chars, ?_⟩
  rintro mark other rfl
  rw [bare.chars c (by rw [chars]; exact List.mem_cons_self)] at other
  cases other

theorem isBlank_of_ne {c : Char} (other : ∀ mark, isKeyChar mark = false → c ≠ mark) :
    isBlank c = false := by
  simp [isBlank, isSpace, other ' ' (by decide), other '\t' (by decide), other '\n' (by decide)]

theorem readName?_bare (bare : IsBare name) (stop : ∀ c ∈ rest.head?, isKeyChar c = false) :
    readName? (name.toList ++ rest) = some (name, rest) := by
  obtain ⟨c, more, chars, other⟩ := bare.exists_head
  have stops : rest.takeWhile isKeyChar = [] ∧ rest.dropWhile isKeyChar = rest := by
    cases rest with
    | nil => exact ⟨rfl, rfl⟩
    | cons d rest => simp [stop d rfl]
  have taken : (name.toList ++ rest).takeWhile isKeyChar = name.toList := by
    rw [List.takeWhile_append_of_pos bare.chars, stops.1, List.append_nil]
  have left : (name.toList ++ rest).dropWhile isKeyChar = rest := by
    rw [List.dropWhile_append_of_pos bare.chars, stops.2]
  unfold readName?
  split
  · next eq =>
    rw [chars] at eq
    exact absurd (List.cons.inj eq).1 (other '"' (by decide))
  · next eq =>
    rw [chars] at eq
    exact absurd (List.cons.inj eq).1 (other '\'' (by decide))
  · rw [taken, left, chars]
    simp only [← chars, String.ofList_toList]

theorem names?_bare (bare : IsBare name) (stop : ∀ c ∈ rest.head?, isKeyChar c = false)
    (noDot : ∀ c ∈ (skipSpace rest).head?, c ≠ '.') (fuel : Nat) :
    names? (fuel + 1) (name.toList ++ rest) = some ([name], skipSpace rest) := by
  obtain ⟨c, more, chars, other⟩ := bare.exists_head
  have solid : skipSpace (name.toList ++ rest) = name.toList ++ rest := by
    simp [chars, skipSpace, isSpace, other ' ' (by decide), other '\t' (by decide)]
  simp only [names?, solid, readName?_bare bare stop, Option.bind_eq_bind, Option.bind_some]
  split
  · next dot => exact absurd rfl (noDot '.' (by rw [dot]; rfl))
  · rfl

/-- A bare name is a key of one name. -/
theorem readKey?_bare (bare : IsBare name) (stop : ∀ c ∈ rest.head?, isKeyChar c = false)
    (noDot : ∀ c ∈ (skipSpace rest).head?, c ≠ '.') :
    readKey? (name.toList ++ rest) = some ([], name, skipSpace rest) := by
  have names : names? (nestingLimit - 1) (name.toList ++ rest) = some ([name], skipSpace rest) :=
    names?_bare bare stop noDot 78
  simp [readKey?, names]

end Keys

section Tables

variable {entries : Entries} {name : String}

theorem find?_of_fresh (fresh : name ∉ entries.map Prod.fst) :
    entries.find? (·.1 = name) = none := by
  rw [List.find?_eq_none]
  intro entry mem same
  exact fresh (List.mem_map.2 ⟨entry, mem, of_decide_eq_true same⟩)

theorem get?_of_fresh (fresh : name ∉ entries.map Prod.fst) : Tree.get? entries name = none := by
  rw [Tree.get?, find?_of_fresh fresh, Option.map_none]

theorem put_of_fresh (fresh : name ∉ entries.map Prod.fst) (tree : Tree) :
    Tree.put entries name tree = entries ++ [(name, tree)] := by
  rw [Tree.put, get?_of_fresh fresh]
  rfl

theorem get?_last (fresh : name ∉ entries.map Prod.fst) (tree : Tree) :
    Tree.get? (entries ++ [(name, tree)]) name = some tree := by
  simp [Tree.get?, find?_of_fresh fresh]

theorem put_last (fresh : name ∉ entries.map Prod.fst) (tree changed : Tree) :
    Tree.put (entries ++ [(name, tree)]) name changed = entries ++ [(name, changed)] := by
  have others : entries.map (fun e => if e.1 = name then (name, changed) else e) = entries := by
    refine (List.map_congr_left fun entry mem => if_neg fun same => fresh ?_).trans (List.map_id _)
    exact List.mem_map.2 ⟨entry, mem, same⟩
  rw [Tree.put, get?_last fresh, List.map_append, others]
  simp

end Tables

section Lines

variable {d d' d'' : Draft} {name key : String} {text other rest : List Char}

theorem lineEnd?_break (rest : List Char) : lineEnd? ('\n' :: rest) = some rest := rfl

/-- The draft whose last table is the one of the last header. -/
def Draft.inTable (done : Entries) (name : String) (settings : Entries) : Draft :=
  ⟨done ++ [(name, .table .header settings)], [name]⟩

theorem readHeader?_bare (bare : IsBare name) (fresh : name ∉ d.entries.map Prod.fst)
    (rest : List Char) : readHeader? d (name.toList ++ ']' :: '\n' :: rest) =
      some (.inTable d.entries name [], rest) := by
  have key : readKey? (name.toList ++ ']' :: '\n' :: rest) = some ([], name, ']' :: '\n' :: rest) :=
    readKey?_bare bare (by simp; decide) (by simp [skipSpace, isSpace])
  have opened : Tree.openTable name d.entries =
      some (d.entries ++ [(name, .table .header [])]) := by
    rw [Tree.openTable, get?_of_fresh fresh, ← put_of_fresh fresh]
  simp [readHeader?, key, Tree.alterTable, opened, lineEnd?_break, Draft.inTable]

theorem alterTable_inTable {change : Entries → Option Entries} {done settings settings' : Entries}
    (fresh : name ∉ done.map Prod.fst) (changed : change settings = some settings') :
    Tree.alterTable change [name] (done ++ [(name, .table .header settings)]) =
      some (done ++ [(name, .table .header settings')]) := by
  simp [Tree.alterTable, get?_last fresh, changed, put_last fresh]

theorem readPair?_bare {done settings : Entries} {setting : Setting} {fuel : Nat}
    (bare : IsBare key) (fresh : name ∉ done.map Prod.fst) (new : key ∉ settings.map Prod.fst)
    (printed : setting.print? = some text) (enough : text.length ≤ fuel + 1) (rest : List Char) :
    readPair? (fuel + 1) (.inTable done name settings)
        (key.toList ++ ' ' :: '=' :: ' ' :: (text ++ '\n' :: rest)) =
      some (.inTable done name (settings ++ [(key, .value setting.toToml)]), rest) := by
  have named : readKey? (key.toList ++ ' ' :: '=' :: ' ' :: (text ++ '\n' :: rest)) =
      some ([], key, '=' :: ' ' :: (text ++ '\n' :: rest)) :=
    readKey?_bare bare (by simp; decide) (by simp [skipSpace, isSpace])
  have value : equals? ('=' :: ' ' :: (text ++ '\n' :: rest)) = some (text ++ '\n' :: rest) := by
    rw [equals?]
    exact congrArg some (skipSpace_print printed _)
  have ends : Ends ('\n' :: rest) := ⟨_, rest, rfl, .inr (.inr rfl)⟩
  have read : readValue? (fuel + 1) (nestingLimit - 1) (text ++ '\n' :: rest) =
      some (setting.toToml, '\n' :: rest) := readValue?_print printed enough ends
  have added : Tree.add settings [] key setting.toToml =
      some (settings ++ [(key, .value setting.toToml)]) := by
    simp [Tree.add, get?_of_fresh new, put_of_fresh new]
  have altered : Tree.alterTable (Tree.add · [] key setting.toToml) [name]
      (done ++ [(name, .table .header settings)]) =
        some (done ++ [(name, .table .header (settings ++ [(key, .value setting.toToml)]))]) :=
    alterTable_inTable fresh added
  simp only [readPair?, named, Option.bind_eq_bind, Option.bind_some, value, read, Draft.inTable,
    altered, lineEnd?_break, Option.pure_def]

/-- Over a text the reader goes from one draft to another, whatever follows, and keeps more fuel than
there are characters left. -/
def Advances (d : Draft) (text : List Char) (d' : Draft) : Prop :=
  ∀ (rest : List Char) (fuel : Nat), (text ++ rest).length < fuel →
    ∃ fuel', rest.length < fuel' ∧ readLines? fuel d (text ++ rest) = readLines? fuel' d' rest

theorem Advances.nil (d : Draft) : Advances d [] d := fun _ fuel enough => ⟨fuel, enough, rfl⟩

theorem Advances.append (first : Advances d text d') (second : Advances d' other d'') :
    Advances d (text ++ other) d'' := by
  intro rest fuel enough
  rw [List.append_assoc] at enough ⊢
  obtain ⟨fuel', enough', read⟩ := first (other ++ rest) fuel enough
  obtain ⟨fuel'', enough'', read'⟩ := second rest fuel' enough'
  exact ⟨fuel'', enough'', read.trans read'⟩

/-- Empty lines leave the draft as it is. -/
theorem Advances.break (d : Draft) : Advances d ['\n'] d := by
  intro rest fuel enough
  refine ⟨fuel, Nat.lt_trans (Nat.lt_succ_self _) enough, ?_⟩
  have skipped : skipLines false ('\n' :: rest) = skipLines false rest :=
    skipLines_blanks ['\n'] (by decide) rest
  cases fuel with
  | zero => rfl
  | succ fuel => simp only [List.singleton_append, readLines?, skipped]

/-- A line that begins with a mark or a letter is read in one step. -/
theorem Advances.line {c : Char} {line : List Char} (solid : isBlank c = false)
    (notComment : c ≠ '#') (read : ∀ rest n, (c :: line).length ≤ n →
      readLine? n d (c :: line ++ rest) = some (d', rest)) : Advances d (c :: line) d' := by
  intro rest fuel enough
  obtain ⟨k, rfl⟩ : ∃ k, fuel = k + 1 := ⟨fuel - 1, by omega⟩
  simp only [List.length_append, List.length_cons] at enough
  refine ⟨k, by omega, ?_⟩
  have step := read rest (c :: line ++ rest).length (by simp)
  have first : skipLines false (c :: line ++ rest) = c :: line ++ rest :=
    skipLines_solid solid notComment _
  rw [readLines?, first]
  simp only [List.cons_append] at step ⊢
  rw [step]
  rfl

theorem readLine?_header {c : Char} (notItem : c ≠ '[') (n : Nat) (s : List Char) :
    readLine? n d ('[' :: c :: s) = readHeader? d (c :: s) := by
  rw [readLine?]
  rintro more eq
  exact notItem (List.cons.inj eq).1

theorem readLine?_pair {c : Char} (notHeader : c ≠ '[') (n : Nat) (s : List Char) :
    readLine? n d (c :: s) = readPair? n d (c :: s) := by
  rw [readLine?]
  all_goals
    rintro more eq
    exact notHeader (List.cons.inj eq).1

theorem Advances.header (bare : IsBare name) (fresh : name ∉ d.entries.map Prod.fst) :
    Advances d ('[' :: (name.toList ++ [']', '\n'])) (.inTable d.entries name []) := by
  refine Advances.line (by decide) (by decide) fun rest n _ => ?_
  obtain ⟨c, more, chars, other⟩ := bare.exists_head
  have read := readHeader?_bare bare fresh rest
  simp only [List.cons_append, List.append_assoc, List.nil_append, chars] at read ⊢
  rw [readLine?_header (other '[' (by decide)), read]

theorem Advances.setting {done settings : Entries} {entry : String × Setting} {line : List Char}
    (bare : IsBare entry.1) (fresh : name ∉ done.map Prod.fst)
    (new : entry.1 ∉ settings.map Prod.fst) (printed : printSetting? entry = some line) :
    Advances (.inTable done name settings) line
      (.inTable done name (settings ++ [(entry.1, .value entry.2.toToml)])) := by
  obtain ⟨text, value, rfl⟩ := Option.map_eq_some_iff.1 printed
  obtain ⟨c, more, chars, other⟩ := bare.exists_head
  have written : entry.1.toList ++ " = ".toList ++ text ++ ['\n'] =
      c :: (more ++ " = ".toList ++ text ++ ['\n']) := by
    simp [chars]
  rw [written]
  refine Advances.line (isBlank_of_ne other) (other '#' (by decide)) fun rest n enough => ?_
  simp only [List.length_cons, List.length_append] at enough
  obtain ⟨k, rfl⟩ : ∃ k, n = k + 1 := ⟨n - 1, by omega⟩
  have read := readPair?_bare bare fresh new value (show text.length ≤ k + 1 by omega) rest
  rw [← written]
  simp only [chars, List.cons_append, List.append_assoc, List.nil_append] at read ⊢
  rw [readLine?_pair (other '[' (by decide))]
  exact read

/-- The entries of a table under construction that holds some settings. -/
def Section.entries (settings : List (String × Setting)) : Entries :=
  settings.map fun entry => (entry.1, .value entry.2.toToml)

theorem Advances.settings {done : Entries} (fresh : name ∉ done.map Prod.fst)
    {before later : List (String × Setting)} {lines : List (List Char)}
    (bare : ∀ entry ∈ later, IsBare entry.1) (distinct : ((before ++ later).map Prod.fst).Nodup)
    (printed : later.mapM printSetting? = some lines) :
    Advances (.inTable done name (Section.entries before)) lines.flatten
      (.inTable done name (Section.entries (before ++ later))) := by
  induction later generalizing before lines with
  | nil =>
    cases printed
    rw [List.append_nil]
    exact Advances.nil _
  | cons entry later ih =>
    obtain ⟨line, more, first, rest, rfl⟩ := mapM_cons_eq_some printed
    obtain ⟨named, bare⟩ := List.forall_mem_cons.1 bare
    -- The table holds the settings before this one, so its key is new there.
    have new : entry.1 ∉ (Section.entries before).map Prod.fst := by
      have keys : (Section.entries before).map Prod.fst = before.map Prod.fst := by
        simp [Section.entries]
      rw [keys]
      intro mem
      rw [List.map_append] at distinct
      exact (List.nodup_append.1 distinct).2.2 _ mem _ List.mem_cons_self rfl
    have step := Advances.setting named fresh new first
    rw [List.append_cons] at distinct ⊢
    rw [List.flatten_cons]
    refine step.append ?_
    have entries : Section.entries before ++ [(entry.1, .value entry.2.toToml)] =
        Section.entries (before ++ [entry]) := by
      simp [Section.entries]
    rw [entries]
    exact ih bare distinct rest

/-- The section has bare names, and no key stands in it twice. -/
structure Section.IsPlain (s : Section) : Prop where
  bareName : IsBare s.name
  bareKeys : ∀ entry ∈ s.settings, IsBare entry.1
  distinct : (s.settings.map Prod.fst).Nodup

/-- The table under construction that a section is read as. -/
def Section.entry (s : Section) : String × Tree := (s.name, .table .header (entries s.settings))

theorem Advances.section {s : Section} (plain : s.IsPlain)
    (fresh : s.name ∉ d.entries.map Prod.fst) (printed : s.print? = some text) :
    ∃ header, Advances d text ⟨d.entries ++ [s.entry], header⟩ := by
  obtain ⟨lines, settings, rfl⟩ := Option.map_eq_some_iff.1 printed
  have opened := Advances.header plain.bareName fresh
  have distinct : (([] ++ s.settings).map Prod.fst).Nodup := plain.distinct
  have filled := Advances.settings fresh plain.bareKeys distinct settings
  exact ⟨[s.name], opened.append filled⟩

theorem Advances.sections {sections : List Section} {texts : List (List Char)}
    (plain : ∀ s ∈ sections, s.IsPlain)
    (distinct : (d.entries.map Prod.fst ++ sections.map Section.name).Nodup)
    (printed : sections.mapM Section.print? = some texts) :
    ∃ header, Advances d (['\n'].intercalate texts)
      ⟨d.entries ++ sections.map Section.entry, header⟩ := by
  induction sections generalizing d texts with
  | nil =>
    cases printed
    exact ⟨d.header, by simpa using Advances.nil d⟩
  | cons s sections ih =>
    obtain ⟨text, more, first, rest, rfl⟩ := mapM_cons_eq_some printed
    obtain ⟨plain, others⟩ := List.forall_mem_cons.1 plain
    have fresh : s.name ∉ d.entries.map Prod.fst := by
      intro mem
      exact (List.nodup_append.1 distinct).2.2 _ mem _ List.mem_cons_self rfl
    obtain ⟨header, step⟩ := Advances.section plain fresh first
    let extended : Draft := ⟨d.entries ++ [s.entry], header⟩
    have distinct' : (extended.entries.map Prod.fst ++ sections.map Section.name).Nodup := by
      simpa [extended, Section.entry] using distinct
    cases sections with
    | nil =>
      cases rest
      exact ⟨header, by simpa using step⟩
    | cons next sections =>
      obtain ⟨header', later⟩ := ih others distinct' rest
      obtain ⟨text', texts, _, _, rfl⟩ := mapM_cons_eq_some rest
      rw [List.append_assoc, List.singleton_append, ← List.map_cons] at later
      refine ⟨header', ?_⟩
      rw [List.intercalate_cons_cons, List.append_assoc]
      exact step.append ((Advances.break _).append later)

end Lines

section LineFeeds

variable {s : List Char}

theorem withLineFeeds_eq_self (noReturn : '\r' ∉ s) : withLineFeeds s = s := by
  induction s with
  | nil => rfl
  | cons c s ih =>
    rw [List.mem_cons, not_or] at noReturn
    rw [withLineFeeds, ih noReturn.2]
    rintro more rfl
    exact absurd rfl noReturn.1

theorem IsBare.noReturn {name : String} (bare : IsBare name) : '\r' ∉ name.toList :=
  fun mem => absurd (bare.chars _ mem) (by decide)

theorem noReturn_section {part : Section} (plain : part.IsPlain) (printed : part.print? = some s) :
    '\r' ∉ s := by
  obtain ⟨lines, settings, rfl⟩ := Option.map_eq_some_iff.1 printed
  have noLine : ∀ line ∈ lines, '\r' ∉ line := by
    intro line mem
    obtain ⟨entry, member, written⟩ := exists_of_mem_mapM settings mem
    obtain ⟨text, value, rfl⟩ := Option.map_eq_some_iff.1 written
    have key := (plain.bareKeys entry member).noReturn
    have text := noReturn_print value
    simp [key, text]
  have noLines : '\r' ∉ lines.flatten := by
    rw [List.mem_flatten]
    rintro ⟨line, member, mem⟩
    exact noLine line member mem
  rw [List.mem_cons, List.mem_append, List.mem_append]
  simp [plain.bareName.noReturn, noLines]

theorem noReturn_intercalate {texts : List (List Char)} (each : ∀ text ∈ texts, '\r' ∉ text) :
    '\r' ∉ ['\n'].intercalate texts := by
  induction texts with
  | nil => exact List.not_mem_nil
  | cons text texts ih =>
    obtain ⟨first, each⟩ := List.forall_mem_cons.1 each
    cases texts with
    | nil => rwa [List.intercalate_singleton]
    | cons next texts =>
      rw [List.intercalate_cons_cons, List.mem_append, List.mem_append]
      simp [first, ih each]

theorem noReturn_print? {sections : List Section} (plain : ∀ part ∈ sections, part.IsPlain)
    (printed : print? sections = some s) : '\r' ∉ s := by
  obtain ⟨texts, parts, rfl⟩ := Option.map_eq_some_iff.1 printed
  refine noReturn_intercalate fun text mem => ?_
  obtain ⟨part, member, written⟩ := exists_of_mem_mapM parts mem
  exact noReturn_section (plain part member) written

/-- A document begins with a header, if with anything. -/
theorem head?_print? {sections : List Section} (printed : print? sections = some s) :
    s = [] ∨ ∃ more, s = '[' :: more := by
  obtain ⟨texts, parts, rfl⟩ := Option.map_eq_some_iff.1 printed
  cases sections with
  | nil =>
    cases parts
    exact .inl rfl
  | cons part sections =>
    obtain ⟨text, texts, first, -, rfl⟩ := mapM_cons_eq_some parts
    obtain ⟨lines, -, rfl⟩ := Option.map_eq_some_iff.1 first
    cases texts with
    | nil => exact .inr ⟨_, List.intercalate_singleton⟩
    | cons next texts => exact .inr ⟨_, List.intercalate_cons_cons⟩

end LineFeeds

/-- The table that a section is read as. -/
def Section.toToml (s : Section) : String × Toml :=
  (s.name, .table (s.settings.map fun entry => (entry.1, entry.2.toToml)))

theorem entriesToToml_settings (settings : List (String × Setting)) :
    Tree.entriesToToml (Section.entries settings) =
      settings.map fun entry => (entry.1, entry.2.toToml) := by
  induction settings with
  | nil => rfl
  | cons entry settings ih =>
    rw [List.map_cons, ← ih]
    rfl

theorem entriesToToml_sections (sections : List Section) :
    Tree.entriesToToml (sections.map Section.entry) = sections.map Section.toToml := by
  induction sections with
  | nil => rfl
  | cons part sections ih =>
    rw [List.map_cons, List.map_cons, ← ih, Section.toToml, ← entriesToToml_settings]
    rfl

/-- A document of plain sections is read back as their tables. -/
theorem read?_print {sections : List Section} {text : List Char}
    (plain : ∀ part ∈ sections, part.IsPlain) (distinct : (sections.map Section.name).Nodup)
    (printed : print? sections = some text) :
    read? text = some (.table (sections.map Section.toToml)) := by
  have noReturn := noReturn_print? plain printed
  have noMark : ∀ more, text ≠ '\uFEFF' :: more := by
    rintro more rfl
    rcases head?_print? printed with empty | ⟨tail, bracket⟩
    · cases empty
    · cases bracket
  obtain ⟨texts, parts, joined⟩ := Option.map_eq_some_iff.1 printed
  have distinct : ((Draft.mk [] []).entries.map Prod.fst ++ sections.map Section.name).Nodup :=
    distinct
  obtain ⟨header, advances⟩ := Advances.sections plain distinct parts
  rw [joined] at advances
  obtain ⟨fuel, enough, lines⟩ := advances [] (text.length + 1) (by simp)
  obtain ⟨k, rfl⟩ : ∃ k, fuel = k + 1 := ⟨fuel - 1, by omega⟩
  rw [List.append_nil] at lines
  rw [read?, withLineFeeds_eq_self noReturn, lines]
  · simp [readLines?, skipLines, entriesToToml_sections]
  · exact noMark

/-- A document can be written exactly if each of its settings can. -/
theorem isSome_print? {sections : List Section} : (print? sections).isSome = true ↔
    ∀ part ∈ sections, ∀ entry ∈ part.settings, entry.2.print?.isSome = true := by
  simp only [print?, Section.print?, printSetting?, Option.isSome_map, isSome_mapM]

theorem isInteger_iff {n : Nat} : isInteger n = true ↔ n < Numbers.bound 63 := by
  rw [isInteger, Numbers.isSigned, Bool.and_eq_true, decide_eq_true_eq, decide_eq_true_eq]
  have positive : 0 ≤ (Numbers.bound (64 - 1) : Int) := Int.natCast_nonneg _
  constructor
  · rintro ⟨-, below⟩
    exact Int.ofNat_lt.1 below
  · intro below
    exact ⟨by omega, Int.ofNat_lt.2 below⟩

end InboxAudit.Toml
