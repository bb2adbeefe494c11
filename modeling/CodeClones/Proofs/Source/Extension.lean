import CodeClones.Proofs.Source.Attempts
import CodeClones.Proofs.Text.Letters
import CodeClones.Proofs.Text.Path

/-!
# The language of a file

The language of a path is decided in two places, once for itself and once on the way to parsing a file. An
extension is known in any case of its letters (`Language.ofExtension?_eq_some_iff`). A file without a language
is answered with one of two errors, which tell whether its path has an extension (`parseFile_cases`). So the
two places decide alike, and by nothing but the letters of the extension: `parseFile_byExtension`.
-/

namespace CodeClones

open Text (Recased)

namespace Language

/-- The extensions of a language, in small letters. -/
def extensions : Language → List String
  | javaScript => ["js", "mjs", "cjs"]
  | jsx => ["jsx"]
  | typeScript => ["ts", "mts", "cts"]
  | tsx => ["tsx"]

variable {language : Language} {ext ext' : String}

/-- The case of letters makes no difference to which language has an extension. -/
lemma ofExtension?_recased (h : Recased ext.toList ext'.toList) :
    ofExtension? ext' = ofExtension? ext := by
  rw [ofExtension?, ofExtension?, normalise, normalise, h.map_toLower]

/-- A language has its own extensions in any case of their letters, and no others. -/
lemma ofExtension?_eq_some_iff :
    ofExtension? ext = some language ↔
      ∃ known ∈ language.extensions, Recased known.toList ext.toList := by
  constructor
  · intro found
    have known : normalise ext ∈ language.extensions := by
      unfold ofExtension? at found
      split at found <;> cases found
      all_goals
        next same =>
          rw [same]
          decide
    refine ⟨normalise ext, known, ?_⟩
    rw [normalise, String.toList_ofList]
    exact .of_toLower ext.toList
  · rintro ⟨known, mem, recased⟩
    have own : ∀ known ∈ language.extensions, ofExtension? known = some language := by
      cases language <;> decide
    rw [ofExtension?_recased recased]
    exact own known mem

end Language

namespace Path

/-- Paths to files whose names differ at most in the case of letters of the extension. The directories in front
may be any. -/
inductive Akin (path path' : String) : Prop where
  | sameName {name} :
    IsFileName name →
    LeadsTo name path →
    LeadsTo name path' →
    Akin path path'
  | recased {stem ext ext'} :
    stem ≠ "" →
    '.' ∉ ext.toList →
    IsFileName (stem ++ "." ++ ext) →
    Recased ext.toList ext'.toList →
    LeadsTo (stem ++ "." ++ ext) path →
    LeadsTo (stem ++ "." ++ ext') path' →
    Akin path path'

variable {path path' : String}

/-- Such paths have the same extension or none, up to the case of its letters. -/
lemma Akin.extension?_cases (akin : Akin path path') :
    extension? path' = extension? path ∨
      ∃ ext ext', extension? path = some ext ∧ extension? path' = some ext' ∧
        Recased ext.toList ext'.toList := by
  cases akin with
  | sameName file leads leads' =>
    left
    rw [extension?, extension?, fileName?_eq_some_iff.mpr ⟨file, leads⟩,
      fileName?_eq_some_iff.mpr ⟨file, leads'⟩]
  | @recased stem ext ext' nonempty noDot file recased leads leads' =>
    right
    have file' : IsFileName (stem ++ "." ++ ext') := by
      rw [isFileName_dotted_iff nonempty] at file ⊢
      obtain ⟨noSlash, noSlash', notParent⟩ := file
      refine ⟨noSlash, mt (recased.mem_of_mem (by decide)) noSlash', ?_⟩
      rintro ⟨dot, rfl⟩
      refine notParent ⟨dot, ?_⟩
      exact String.toList_eq_nil_iff.mp (List.forall₂_nil_right_iff.mp recased)
    have noDot' : '.' ∉ ext'.toList := mt (recased.mem_of_mem (by decide)) noDot
    refine ⟨ext, ext', ?_, ?_, recased⟩
    · exact extension?_eq_some_iff.mpr ⟨stem, nonempty, noDot, file, leads⟩
    · exact extension?_eq_some_iff.mpr ⟨stem, nonempty, noDot', file', leads'⟩

end Path

namespace SourceFile

variable {columnLimit : UInt32} {path source : String} {trees : Trees}

/-- A path without an extension is answered with the error that shows the path. -/
lemma parseFile_of_noExtension (none : Path.extension? path = none) :
    parseFile columnLimit path source trees = .error (.unknownLanguage path) := by
  simp only [parseFile, languageOf, none]

section Extension

variable {ext : String} {language : Language} (found : Path.extension? path = some ext)
include found

/-- A path with an extension of no language is answered with the error that shows the extension. -/
lemma parseFile_of_unknown (unknown : Language.ofExtension? ext = none) :
    parseFile columnLimit path source trees = .error (.unsupportedExtension ext) := by
  simp only [parseFile, languageOf, found, unknown]

/-- A path with the extension of a language is parsed as that language. -/
lemma parseFile_of_known (known : Language.ofExtension? ext = some language) :
    parseFile columnLimit path source trees = parse columnLimit path language source trees := by
  simp only [parseFile, languageOf, found, known]

end Extension

/-- A path has no extension, one that belongs to no language, or that of a language. -/
lemma parseFile_cases (columnLimit : UInt32) (path source : String) (trees : Trees) :
    let answer := parseFile columnLimit path source trees
    (Path.extension? path = none ∧ answer = .error (.unknownLanguage path)) ∨
    (∃ ext, Path.extension? path = some ext ∧ Language.ofExtension? ext = none ∧
      answer = .error (.unsupportedExtension ext)) ∨
    ∃ ext language, Path.extension? path = some ext ∧ Language.ofExtension? ext = some language ∧
      answer = parse columnLimit path language source trees := by
  cases found : Path.extension? path with
  | none => exact .inl ⟨rfl, parseFile_of_noExtension found⟩
  | some ext =>
    cases known : Language.ofExtension? ext with
    | none => exact .inr (.inl ⟨ext, rfl, known, parseFile_of_unknown found known⟩)
    | some language => exact .inr (.inr ⟨ext, language, rfl, known, parseFile_of_known found known⟩)

/-- A source that is parsed as a language fails for no reason but itself. -/
lemma parse_ne_extensionError {language : Language} :
    (∀ p, parse columnLimit path language source trees ≠ .error (.unknownLanguage p)) ∧
      ∀ ext, parse columnLimit path language source trees ≠ .error (.unsupportedExtension ext) := by
  constructor
  · intro p failed
    cases parse_eq_error failed
  · intro ext failed
    cases parse_eq_error failed

/-- The error that shows the path is the answer just when the path has no extension. -/
lemma parseFile_eq_unknownLanguage_iff {p : String} :
    parseFile columnLimit path source trees = .error (.unknownLanguage p) ↔
      p = path ∧ Path.extension? path = none := by
  rcases parseFile_cases columnLimit path source trees with
    ⟨none, e⟩ | ⟨ext, found, -, e⟩ | ⟨ext, language, found, -, e⟩
  · rw [e, none]
    constructor
    · intro same
      cases same
      exact ⟨rfl, rfl⟩
    · rintro ⟨rfl, -⟩
      rfl
  · rw [e, found]
    exact ⟨nofun, nofun⟩
  · rw [e, found]
    exact ⟨fun failed => absurd failed (parse_ne_extensionError.1 p), nofun⟩

/-- The error that shows the extension is the answer just when no language has it. -/
lemma parseFile_eq_unsupportedExtension_iff {ext : String} :
    parseFile columnLimit path source trees = .error (.unsupportedExtension ext) ↔
      Path.extension? path = some ext ∧ Language.ofExtension? ext = none := by
  rcases parseFile_cases columnLimit path source trees with
    ⟨none, e⟩ | ⟨ext', found, unknown, e⟩ | ⟨ext', language, found, known, e⟩
  · rw [e, none]
    exact ⟨nofun, nofun⟩
  · rw [e, found]
    constructor
    · intro same
      cases same
      exact ⟨rfl, unknown⟩
    · rintro ⟨same, -⟩
      cases same
      rfl
  · rw [e, found]
    constructor
    · intro failed
      exact absurd failed (parse_ne_extensionError.2 ext)
    · rintro ⟨same, unknown⟩
      cases same
      cases known.symm.trans unknown

/-- A path has no language just if a file under it is answered with one of the errors about its extension. -/
lemma ofPath?_eq_none_iff :
    Language.ofPath? path = none ↔
      parseFile columnLimit path source trees = .error (.unknownLanguage path) ∨
        ∃ ext, parseFile columnLimit path source trees = .error (.unsupportedExtension ext) := by
  simp only [parseFile_eq_unknownLanguage_iff, parseFile_eq_unsupportedExtension_iff, true_and]
  rw [Language.ofPath?]
  cases Path.extension? path with
  | none => simp
  | some ext => simp

/-- A file is parsed as the language of its path. It has one of two errors reported instead where there is no
such language: one where the path has no extension, which shows the path, and another where it has one that no
language has, which shows the extension as it is written. The language is that which has the extension in some
case of its letters. So nothing changes with the case of these letters or with the directories in front of the
file, but for what the errors show. -/
theorem parseFile_byExtension (columnLimit : UInt32) (path source : String) (trees : Trees) :
    let answer path := parseFile columnLimit path source trees
    (∀ p, answer path = .error (.unknownLanguage p) ↔
      p = path ∧ ∀ ext, ¬ Path.HasExtension path ext) ∧
    (∀ ext, answer path = .error (.unsupportedExtension ext) ↔
      Path.HasExtension path ext ∧ Language.ofExtension? ext = none) ∧
    (∀ ext language, Path.HasExtension path ext → Language.ofExtension? ext = some language →
      Language.ofPath? path = some language ∧
        answer path = parse columnLimit path language source trees) ∧
    (Language.ofPath? path = none ↔
      answer path = .error (.unknownLanguage path) ∨
        ∃ ext, answer path = .error (.unsupportedExtension ext)) ∧
    (∀ language, Language.ofPath? path = some language ↔
      ∃ ext, Path.HasExtension path ext ∧
        ∃ known ∈ language.extensions, Recased known.toList ext.toList) ∧
    ∀ path', Path.Akin path path' →
      Language.ofPath? path' = Language.ofPath? path ∧
      (answer path' = .error (.unknownLanguage path') ↔
        answer path = .error (.unknownLanguage path)) ∧
      ((∃ ext, answer path' = .error (.unsupportedExtension ext)) ↔
        ∃ ext, answer path = .error (.unsupportedExtension ext)) := by
  intro answer
  refine ⟨?_, ?_, ?_, ofPath?_eq_none_iff, ?_, ?_⟩
  · intro p
    rw [← Path.extension?_eq_none_iff]
    exact parseFile_eq_unknownLanguage_iff
  · intro ext
    rw [← Path.extension?_eq_some_iff]
    exact parseFile_eq_unsupportedExtension_iff
  · intro ext language has known
    have found := Path.extension?_eq_some_iff.mpr has
    refine ⟨?_, parseFile_of_known found known⟩
    rw [Language.ofPath?, found, Option.bind_some, known]
  · intro language
    simp only [Language.ofPath?, Option.bind_eq_some_iff, Path.extension?_eq_some_iff,
      Language.ofExtension?_eq_some_iff]
  · intro path' akin
    simp only [answer, parseFile_eq_unknownLanguage_iff, parseFile_eq_unsupportedExtension_iff, true_and]
    rcases akin.extension?_cases with same | ⟨ext, ext', found, found', recased⟩
    · simp [Language.ofPath?, same]
    · have same := Language.ofExtension?_recased recased
      simp [Language.ofPath?, found, found', same]

/-- A file far away with a dot behind its name, and one of the same name close by whose extension has other
capitals; an extension with a long s at its end, which no change of case among the letters of the seven-bit
range leads to; and a name with a dot in front. -/
theorem parseFile_byExtension_sample :
    let far := "../src.v2/main.test.MtS/."
    let near := "main.test.mTs"
    Path.Akin far near ∧
      Language.ofPath? far = some .typeScript ∧ Language.ofPath? near = some .typeScript ∧
      parseFile 100 far "f(x" (fun _ => some unclosed) =
        parse 100 far .typeScript "f(x" (fun _ => some unclosed) ∧
      parseFile 100 "src/main.t\u017f" "" (fun _ => none) =
        .error (.unsupportedExtension "t\u017f") ∧
      parseFile 100 "src/.ts/" "" (fun _ => none) = .error (.unknownLanguage "src/.ts/") := by
  intro far near
  have file : Path.IsFileName ("main.test" ++ "." ++ "MtS") :=
    ⟨by decide, by decide, by decide, by decide⟩
  have there : Path.LeadsTo ("main.test" ++ "." ++ "MtS") far := .dot (.inside "../src.v2" .here)
  have recased : Recased "MtS".toList "mTs".toList := by decide
  have akin : Path.Akin far near := .recased (by decide) (by decide) file recased there .here
  obtain ⟨-, -, known, -, -, same⟩ :=
    parseFile_byExtension 100 far "f(x" (fun _ => some unclosed)
  obtain ⟨language, parsed⟩ :=
    known "MtS" .typeScript ⟨"main.test", by decide, by decide, file, there⟩ (by decide)
  have long := Path.extension?_eq_some_iff.mp
    (by decide : Path.extension? "src/main.t\u017f" = some "t\u017f")
  have hidden := Path.extension?_eq_none_iff.mp
    (by decide : Path.extension? "src/.ts/" = none)
  refine ⟨akin, language, (same near akin).1.trans language, parsed, ?_, ?_⟩
  · exact ((parseFile_byExtension 100 _ "" fun _ => none).2.1 _).mpr ⟨long, by decide⟩
  · exact ((parseFile_byExtension 100 _ "" fun _ => none).1 _).mpr ⟨rfl, hidden⟩

end SourceFile

end CodeClones
