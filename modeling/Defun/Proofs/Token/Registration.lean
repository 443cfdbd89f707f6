import Mathlib.Data.List.Induction
import Mathlib.Data.List.Nodup
import Defun.Token.GrammarFile
import Defun.Yaml.KindEntries

/-!
# Which lists of entries are registries

A list of entries is a registry if its names are pairwise different, its
patterns can be read and no category lacks a name in it.  A list that is not is
refused because of its first faulty entry, where a repeated name counts more
than an unreadable pattern, or else because of the first category that has no
entry.

Entries are taken one by one.  As long as they are sound, each adds its name to
those that were seen and its kind to the result, and the entries behind them
decide what comes of the list.
-/

namespace Defun

namespace KindEntry

/-- The pattern of an entry can be read. -/
def IsReadable (entry : KindEntry) : Prop :=
  ∃ pattern, Pattern.compile entry.pattern = .ok pattern

/-- A kind has the name and the pattern of an entry. -/
structure Describes (entry : KindEntry) (kind : Kind) : Prop where
  name_eq : kind.name = entry.name
  source_eq : kind.pattern.source = entry.pattern
  compile_eq : Pattern.compile entry.pattern = .ok kind.pattern

theorem describes_of_compile {entry : KindEntry} {pattern : Pattern}
    (compiled : Pattern.compile entry.pattern = .ok pattern) :
    entry.Describes ⟨entry.name, pattern⟩ := by
  refine ⟨rfl, ?_, compiled⟩
  rw [Pattern.compile] at compiled
  cases parsed : Regex.parse entry.pattern with
  | error error =>
      rw [parsed] at compiled
      cases compiled
  | ok regex =>
      rw [parsed] at compiled
      cases compiled
      rfl

theorem not_isReadable_iff {entry : KindEntry} :
    ¬ entry.IsReadable ↔
      ∃ error, Pattern.compile entry.pattern = .error error := by
  rw [IsReadable]
  cases Pattern.compile entry.pattern <;> simp

instance (entry : KindEntry) : Decidable entry.IsReadable :=
  match compiled : Pattern.compile entry.pattern with
  | .ok pattern => .isTrue ⟨pattern, compiled⟩
  | .error error => .isFalse (not_isReadable_iff.mpr ⟨error, compiled⟩)

end KindEntry

namespace Registry

/-- No entry repeats a name or has a pattern that cannot be read. -/
structure Sound (entries : List KindEntry) : Prop where
  nodup : (entries.map KindEntry.name).Nodup
  readable : ∀ entry ∈ entries, entry.IsReadable

instance (entries : List KindEntry) : Decidable (Sound entries) :=
  decidable_of_iff
    ((entries.map KindEntry.name).Nodup ∧
      ∀ entry ∈ entries, entry.IsReadable)
    ⟨fun both => ⟨both.1, both.2⟩, fun sound => ⟨sound.1, sound.2⟩⟩

/-- The fault of an entry behind entries of some names. -/
inductive FaultBehind (seen : List Bytes) (entry : KindEntry) :
    RegistryError → Prop where
  | duplicate (repeated : entry.name ∈ seen) :
      FaultBehind seen entry (.duplicate entry.name)
  | pattern {error : PatternError} (fresh : entry.name ∉ seen)
      (refused : Pattern.compile entry.pattern = .error error) :
      FaultBehind seen entry (.pattern entry.name error)

/-- The entries describe a registry. -/
structure IsRegistry (entries : List KindEntry) : Prop extends
    Sound entries where
  complete : ∀ category ∈ Category.all,
    category.name ∈ entries.map KindEntry.name

instance (entries : List KindEntry) : Decidable (IsRegistry entries) :=
  decidable_of_iff
    (Sound entries ∧ ∀ category ∈ Category.all,
      category.name ∈ entries.map KindEntry.name)
    ⟨fun both => ⟨both.1, both.2⟩, fun registry => ⟨registry.1, registry.2⟩⟩

/-- Why entries do not describe a registry: the fault of the first faulty entry,
or else the first category that no entry names. -/
inductive Refuses : List KindEntry → RegistryError → Prop where
  | entry {before after : List KindEntry} {entry : KindEntry}
      {error : RegistryError} (sound : Sound before)
      (fault : FaultBehind (before.map KindEntry.name) entry error) :
      Refuses (before ++ entry :: after) error
  | missing {entries : List KindEntry} {before after : List Category}
      {category : Category} (sound : Sound entries)
      (order : Category.all = before ++ category :: after)
      (present : ∀ other ∈ before, other.name ∈ entries.map KindEntry.name)
      (absent : category.name ∉ entries.map KindEntry.name) :
      Refuses entries (.missing category.name)

section Entries

variable {seen : List Bytes} {entry : KindEntry} {entries : List KindEntry}

theorem sound_nil : Sound [] :=
  ⟨List.nodup_nil, List.forall_mem_nil _⟩

theorem sound_concat_iff :
    Sound (entries ++ [entry]) ↔
      Sound entries ∧ entry.name ∉ entries.map KindEntry.name ∧
        entry.IsReadable := by
  constructor
  · rintro ⟨nodup, readable⟩
    rw [List.map_append, List.map_singleton, ← List.concat_eq_append,
      List.nodup_concat] at nodup
    exact ⟨⟨nodup.2, fun other member => readable other (by simp [member])⟩,
      nodup.1, readable entry (by simp)⟩
  · rintro ⟨⟨nodup, readable⟩, fresh, readableLast⟩
    constructor
    · rw [List.map_append, List.map_singleton, ← List.concat_eq_append,
        List.nodup_concat]
      exact ⟨fresh, nodup⟩
    · intro other member
      rcases List.mem_append.mp member with earlier | last
      · exact readable other earlier
      · rwa [List.mem_singleton.mp last]

theorem compileEntries_cons_of_compile {pattern : Pattern}
    (fresh : entry.name ∉ seen)
    (compiled : Pattern.compile entry.pattern = .ok pattern) :
    compileEntries seen (entry :: entries) =
      (compileEntries (entry.name :: seen) entries).map
        (⟨entry.name, pattern⟩ :: ·) := by
  have kindEq : Kind.compile entry.name entry.pattern =
      .ok ⟨entry.name, pattern⟩ := by
    rw [Kind.compile, compiled]
    rfl
  rw [compileEntries, if_neg (by simpa using fresh), kindEq]

theorem compileEntries_cons_of_fault {error : RegistryError}
    (fault : FaultBehind seen entry error) :
    compileEntries seen (entry :: entries) = .error error := by
  cases fault with
  | duplicate repeated =>
      rw [compileEntries, if_pos (by simpa using repeated)]
  | @pattern error fresh refused =>
      have kindEq : Kind.compile entry.name entry.pattern = .error error := by
        rw [Kind.compile, refused]
        rfl
      rw [compileEntries, if_neg (by simpa using fresh), kindEq]

/-- Behind sound entries, the loop goes on with their names and their kinds. -/
theorem exists_compileEntries_append (sound : Sound entries) :
    ∃ kinds, List.Forall₂ KindEntry.Describes entries kinds ∧
      ∀ after, compileEntries [] (entries ++ after) =
        (compileEntries (entries.map KindEntry.name).reverse after).map
          (kinds ++ ·) := by
  induction entries using List.reverseRecOn with
  | nil =>
      refine ⟨[], .nil, fun after => ?_⟩
      rw [List.nil_append, List.map_nil, List.reverse_nil]
      cases compileEntries [] after <;> rfl
  | append_singleton entries entry ih =>
      obtain ⟨soundBefore, fresh, pattern, compiled⟩ :=
        sound_concat_iff.mp sound
      obtain ⟨kinds, described, appended⟩ := ih soundBefore
      have describesLast := KindEntry.describes_of_compile compiled
      refine ⟨kinds ++ [⟨entry.name, pattern⟩],
        List.rel_append described (.cons describesLast .nil),
        fun after => ?_⟩
      rw [List.append_assoc, List.singleton_append, appended,
        compileEntries_cons_of_compile (by simpa using fresh) compiled,
        List.map_append, List.reverse_append]
      simp only [List.map_singleton, List.reverse_singleton,
        List.singleton_append]
      cases compileEntries (entry.name :: (entries.map
        KindEntry.name).reverse) after <;> simp [Except.map]

theorem sound_or_exists_fault (entries : List KindEntry) :
    Sound entries ∨ ∃ before entry after error,
      entries = before ++ entry :: after ∧ Sound before ∧
        FaultBehind (before.map KindEntry.name) entry error := by
  induction entries using List.reverseRecOn with
  | nil => exact Or.inl sound_nil
  | append_singleton entries entry ih =>
      rcases ih with sound | ⟨before, first, after, error, rfl, sound, fault⟩
      · by_cases repeated : entry.name ∈ entries.map KindEntry.name
        · exact Or.inr ⟨entries, entry, [], _, rfl, sound,
            .duplicate repeated⟩
        · by_cases readable : entry.IsReadable
          · exact Or.inl (sound_concat_iff.mpr ⟨sound, repeated, readable⟩)
          · obtain ⟨error, refused⟩ := KindEntry.not_isReadable_iff.mp readable
            exact Or.inr ⟨entries, entry, [], _, rfl, sound,
              .pattern repeated refused⟩
      · refine Or.inr ⟨before, first, after ++ [entry], error, ?_, sound, fault⟩
        simp

end Entries

section Registries

variable {entries : List KindEntry}

theorem all_name_ne_iff {name : Bytes} :
    (entries.all fun entry => entry.name != name) = true ↔
      name ∉ entries.map KindEntry.name := by
  simp

theorem firstMissing?_eq_none_iff :
    firstMissing? entries = none ↔ ∀ category ∈ Category.all,
      category.name ∈ entries.map KindEntry.name := by
  simp only [firstMissing?, List.find?_eq_none, all_name_ne_iff, not_not]

theorem firstMissing?_eq_some_iff {category : Category} :
    firstMissing? entries = some category ↔
      ∃ before after, Category.all = before ++ category :: after ∧
        (∀ other ∈ before, other.name ∈ entries.map KindEntry.name) ∧
        category.name ∉ entries.map KindEntry.name := by
  simp only [firstMissing?, List.find?_eq_some_iff_append, all_name_ne_iff,
    Bool.not_eq_true', ← Bool.not_eq_true, not_not]
  constructor
  · rintro ⟨absent, before, after, order, present⟩
    exact ⟨before, after, order, present, absent⟩
  · rintro ⟨before, after, order, present, absent⟩
    exact ⟨absent, before, after, order, present⟩

theorem exists_compileEntries_of_sound (sound : Sound entries) :
    ∃ kinds, compileEntries [] entries = .ok kinds ∧
      List.Forall₂ KindEntry.Describes entries kinds := by
  obtain ⟨kinds, described, appended⟩ := exists_compileEntries_append sound
  have compiled := appended []
  rw [List.append_nil] at compiled
  refine ⟨kinds, ?_, described⟩
  simp [compiled, compileEntries, Except.map]

theorem exists_ofEntries_of_isRegistry (registry : IsRegistry entries) :
    ∃ kinds, ofEntries entries = .ok kinds ∧
      List.Forall₂ KindEntry.Describes entries kinds := by
  obtain ⟨kinds, compiled, described⟩ :=
    exists_compileEntries_of_sound registry.toSound
  refine ⟨kinds, ?_, described⟩
  rw [ofEntries, compiled, firstMissing?_eq_none_iff.mpr registry.complete]

theorem ofEntries_of_refuses {error : RegistryError}
    (refuses : Refuses entries error) : ofEntries entries = .error error := by
  cases refuses with
  | @entry before after entry _ sound fault =>
      obtain ⟨kinds, -, appended⟩ := exists_compileEntries_append sound
      have behind : FaultBehind (before.map KindEntry.name).reverse entry
          error := by
        cases fault with
        | duplicate repeated => exact .duplicate (List.mem_reverse.mpr repeated)
        | pattern fresh refused =>
            exact .pattern (mt List.mem_reverse.mp fresh) refused
      rw [ofEntries, appended, compileEntries_cons_of_fault behind]
      rfl
  | missing sound order present absent =>
      obtain ⟨kinds, compiled, -⟩ := exists_compileEntries_of_sound sound
      have missing := firstMissing?_eq_some_iff.mpr
        ⟨_, _, order, present, absent⟩
      rw [ofEntries, compiled, missing]

theorem isRegistry_or_refuses (entries : List KindEntry) :
    IsRegistry entries ∨ ∃ error, Refuses entries error := by
  rcases sound_or_exists_fault entries with
    sound | ⟨before, entry, after, error, rfl, sound, fault⟩
  · cases missing : firstMissing? entries with
    | none =>
        exact Or.inl ⟨sound, firstMissing?_eq_none_iff.mp missing⟩
    | some category =>
        obtain ⟨before, after, order, present, absent⟩ :=
          firstMissing?_eq_some_iff.mp missing
        exact Or.inr ⟨_, .missing sound order present absent⟩
  · exact Or.inr ⟨error, .entry sound fault⟩

theorem ofEntries_eq_error_iff {error : RegistryError} :
    ofEntries entries = .error error ↔ Refuses entries error := by
  constructor
  · intro refused
    rcases isRegistry_or_refuses entries with registry | ⟨other, refuses⟩
    · obtain ⟨kinds, accepted, -⟩ := exists_ofEntries_of_isRegistry registry
      rw [accepted] at refused
      cases refused
    · rw [ofEntries_of_refuses refuses] at refused
      cases refused
      exact refuses
  · exact ofEntries_of_refuses

theorem isRegistry_of_ofEntries {kinds : List Kind}
    (accepted : ofEntries entries = .ok kinds) :
    IsRegistry entries ∧ List.Forall₂ KindEntry.Describes entries kinds := by
  rcases isRegistry_or_refuses entries with registry | ⟨error, refuses⟩
  · obtain ⟨others, acceptedToo, described⟩ :=
      exists_ofEntries_of_isRegistry registry
    rw [accepted] at acceptedToo
    cases acceptedToo
    exact ⟨registry, described⟩
  · rw [ofEntries_of_refuses refuses] at accepted
    cases accepted

theorem load_of_decode {σ ε : Type}
    {decode : σ → Except ε (Option (List KindEntry))} {file : σ}
    {listed : Option (List KindEntry)} (decoded : decode file = .ok listed) :
    load decode file = (ofEntries (listed.getD [])).mapError .invalid := by
  rw [load, decoded]

theorem load_of_decode_error {σ ε : Type}
    {decode : σ → Except ε (Option (List KindEntry))} {file : σ} {error : ε}
    (refused : decode file = .error error) :
    load decode file = .error (.unreadable error) := by
  rw [load, refused]

end Registries

/-- Entries describe a registry exactly if they have different names, patterns
that can be read and all names that the grammar needs, and then they give one
kind each.  Otherwise the first fault is reported.  Whatever decodes it, a
grammar file is as good as its entries, and one without a document has none. -/
theorem load_reports_first_fault {σ ε : Type}
    (decode : σ → Except ε (Option (List KindEntry)))
    (entries : List KindEntry) :
    (∀ file, decode file = .ok (some entries) →
      load decode file = (ofEntries entries).mapError .invalid) ∧
    (∀ file, decode file = .ok none →
      load decode file = (ofEntries []).mapError .invalid) ∧
    (∀ file error, decode file = .error error →
      load decode file = .error (.unreadable error)) ∧
    ((∃ kinds, ofEntries entries = .ok kinds) ↔ IsRegistry entries) ∧
    (∀ kinds, ofEntries entries = .ok kinds →
      List.Forall₂ KindEntry.Describes entries kinds) ∧
    ∀ error, ofEntries entries = .error error ↔ Refuses entries error := by
  refine ⟨fun _ => load_of_decode, fun _ => load_of_decode,
    fun _ _ => load_of_decode_error, ⟨?_, ?_⟩, ?_,
    fun error => ofEntries_eq_error_iff⟩
  · rintro ⟨kinds, accepted⟩
    exact (isRegistry_of_ofEntries accepted).1
  · intro registry
    obtain ⟨kinds, accepted, -⟩ := exists_ofEntries_of_isRegistry registry
    exact ⟨kinds, accepted⟩
  · intro kinds accepted
    exact (isRegistry_of_ofEntries accepted).2

/-- The default patterns are those of a registry.  In the refused file, the
second entry repeats a name and cannot be read either, the third cannot be
read, and most names are missing.  In a file of comments, all are. -/
theorem load_reports_repeated_name :
    let defaults : List KindEntry :=
      Category.all.map fun category => ⟨category.name, category.pattern⟩
    let file : Input := ⟨["- \x7bname: end, pattern: x\x7d\n" ++
      "- \x7bname: end, pattern: (\x7d\n- \x7bname: def, pattern: )\x7d\n"],
      none⟩
    let entries : List KindEntry :=
      [⟨"end", "x"⟩, ⟨"end", "("⟩, ⟨"def", ")"⟩]
    (∃ kinds, ofEntries defaults = .ok kinds) ∧
      KindEntry.readAll file = .ok (some entries) ∧
      load KindEntry.readAll file = .error (.invalid (.duplicate "end")) ∧
      load KindEntry.readAll ⟨["# none\n"], none⟩ =
        .error (.invalid (.missing "def")) := by
  intro defaults file entries
  obtain ⟨-, -, -, accepted, -, -⟩ :=
    load_reports_first_fault KindEntry.readAll defaults
  obtain ⟨loads, loadsNone, -, -, -, reported⟩ :=
    load_reports_first_fault KindEntry.readAll entries
  have listed : KindEntry.readAll file = .ok (some entries) := by
    decide +kernel
  have noDocument : KindEntry.readAll ⟨["# none\n"], none⟩ = .ok none := by
    decide +kernel
  have sound : Sound [⟨"end", "x"⟩] := by decide +kernel
  have refuses : Refuses ([⟨"end", "x"⟩] ++ ⟨"end", "("⟩ :: [⟨"def", ")"⟩])
      (.duplicate "end") :=
    .entry sound (.duplicate (by simp))
  refine ⟨accepted.mpr (by decide +kernel), listed, ?_, ?_⟩
  · rw [loads file listed, (reported _).mpr refuses]
    rfl
  · rw [loadsNone _ noDocument]
    rfl

end Registry

end Defun
