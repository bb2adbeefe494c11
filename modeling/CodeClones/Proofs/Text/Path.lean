import CodeClones.Text.Lines
import CodeClones.Text.Path
import Mathlib.Data.List.Induction
import Mathlib.Data.List.TakeWhile
import Mathlib.Tactic.Lemma

/-!
# What the extension of a path is

A path leads to a name through directories, and slashes and single dots behind the name change nothing
(`LeadsTo`). The file name of a path is the name that it leads to, unless this is no name of a file
(`fileName?_eq_some_iff`). An extension is what stands behind the last dot of a file name, if anything stands
in front of it (`HasExtension`). The main statement is `extension?_eq_some_iff`.
-/

namespace CodeClones.Path

/-- The ways in which a path leads to a name. -/
inductive LeadsTo (name : String) : String → Prop where
  | here :
    LeadsTo name name
  | inside {path} (directory : String) :
    LeadsTo name path →
    LeadsTo name (directory ++ "/" ++ path)
  | slash {path} :
    LeadsTo name path →
    LeadsTo name (path ++ "/")
  | dot {path} :
    LeadsTo name path →
    LeadsTo name (path ++ "/.")

/-- A name that a file may have. A single dot names the directory itself, and two dots its parent. -/
structure IsFileName (name : String) : Prop where
  noSlash : '/' ∉ name.toList
  nonempty : name ≠ ""
  notDot : name ≠ "."
  notParent : name ≠ ".."

/-- A path to a file with something in front of the last dot of its name and the extension behind. -/
def HasExtension (path extension : String) : Prop :=
  ∃ stem, stem ≠ "" ∧ '.' ∉ extension.toList ∧ IsFileName (stem ++ "." ++ extension) ∧
    LeadsTo (stem ++ "." ++ extension) path

/-- Something, a dot and an extension make up the name of a file unless there is a slash in them, or they are
the two dots that lead to the parent. -/
lemma isFileName_dotted_iff {stem extension : String} (nonempty : stem ≠ "") :
    IsFileName (stem ++ "." ++ extension) ↔
      '/' ∉ stem.toList ∧ '/' ∉ extension.toList ∧ ¬ (stem = "." ∧ extension = "") := by
  have chars : (stem ++ "." ++ extension).toList = stem.toList ++ '.' :: extension.toList := by simp
  constructor
  · intro file
    have noSlash := file.noSlash
    rw [chars, List.mem_append, List.mem_cons, not_or, not_or] at noSlash
    refine ⟨noSlash.1, noSlash.2.2, ?_⟩
    rintro ⟨rfl, rfl⟩
    exact file.notParent rfl
  · rintro ⟨noSlash, noSlash', notParent⟩
    obtain ⟨c, rest, first⟩ := List.exists_cons_of_ne_nil (mt String.toList_eq_nil_iff.mp nonempty)
    refine ⟨?_, ?_, ?_, ?_⟩
    · rw [chars, List.mem_append, List.mem_cons, not_or, not_or]
      exact ⟨noSlash, by decide, noSlash'⟩
    · intro same
      rw [← String.toList_inj, chars, first] at same
      cases same
    · intro same
      rw [← String.toList_inj, chars, first] at same
      simp at same
    · intro same
      rw [← String.toList_inj, chars, first] at same
      obtain ⟨rfl, behind⟩ := List.cons.inj same
      obtain ⟨rfl, last⟩ | ⟨_, none⟩ := List.append_eq_singleton_iff.mp behind
      · refine notParent ⟨String.toList_inj.mp first, ?_⟩
        exact String.toList_eq_nil_iff.mp (List.cons.inj last).2
      · cases none

section FileName

variable {path name : String}

/-- The names of a path are those on both sides of any slash. -/
lemma names_append (directory path : String) :
    names (directory ++ "/" ++ path) = names directory ++ names path := by
  have slash : (directory ++ "/" ++ path).toList = directory.toList ++ '/' :: path.toList := by
    rw [String.toList_append, String.toList_append, List.append_assoc]
    rfl
  rw [names, slash, List.splitOn_append_cons_self, List.map_append, List.filter_append, names, names]

/-- The name of a file is the only name in it. -/
lemma IsFileName.names_eq (h : IsFileName name) : names name = [name] := by
  rw [names, List.splitOn_eq_singleton h.noSlash, List.map_singleton, String.ofList_toList]
  simp [h.nonempty, h.notDot]

/-- The last name in a path that leads to a file is that of the file. -/
lemma LeadsTo.getLast?_names (file : IsFileName name) (leads : LeadsTo name path) :
    (names path).getLast? = some name := by
  have nowhere : names "" = [] := by decide
  have onTheSpot : names "." = [] := by decide
  induction leads with
  | here => rw [file.names_eq, List.getLast?_singleton]
  | inside directory _ ih => rw [names_append, List.getLast?_append, ih, Option.some_or]
  | @slash path _ ih =>
    have parts : path ++ "/" = path ++ "/" ++ "" := String.append_empty.symm
    rw [parts, names_append, nowhere, List.append_nil, ih]
  | @dot path _ ih =>
    have parts : path ++ "/." = path ++ "/" ++ "." := by rw [String.append_assoc]; rfl
    rw [parts, names_append, onTheSpot, List.append_nil, ih]

/-- Parts lead to the last of them that is neither empty nor a single dot. -/
lemma leadsTo_intercalate {parts : List String}
    (last : (parts.filter fun part => part != "" && part != ".").getLast? = some name) :
    LeadsTo name ("/".intercalate parts) := by
  -- what stands behind the name comes off from the end
  induction parts using List.reverseRecOn with
  | nil => cases last
  | append_singleton front part ih =>
    cases kept : part != "" && part != "." with
    | true =>
      simp only [List.filter_append, List.filter_cons, kept, if_true, List.filter_nil,
        List.getLast?_concat] at last
      cases last
      by_cases first : front = []
      · rw [first, List.nil_append, String.intercalate_singleton]
        exact .here
      · rw [String.intercalate_append_of_ne_nil first (List.cons_ne_nil _ _),
          String.intercalate_singleton]
        exact .inside _ .here
    | false =>
      simp only [List.filter_append, List.filter_cons, kept, Bool.false_eq_true, if_false,
        List.filter_nil, List.append_nil] at last
      have behind : front ≠ [] := by
        rintro rfl
        cases last
      rw [String.intercalate_append_of_ne_nil behind (List.cons_ne_nil _ _),
        String.intercalate_singleton]
      rw [Bool.and_eq_false_iff, bne_eq_false_iff_eq, bne_eq_false_iff_eq] at kept
      rcases kept with rfl | rfl
      · rw [String.append_empty]
        exact (ih last).slash
      · rw [String.append_assoc]
        exact (ih last).dot

/-- A path has a file name just when it leads to that name. -/
lemma fileName?_eq_some_iff : fileName? path = some name ↔ IsFileName name ∧ LeadsTo name path := by
  rw [fileName?, Option.filter_eq_some_iff]
  constructor
  · rintro ⟨last, notParent⟩
    obtain ⟨part, kept⟩ := List.mem_filter.mp (List.mem_of_getLast? last)
    obtain ⟨chars, mem, rfl⟩ := List.mem_map.mp part
    rw [Bool.and_eq_true, bne_iff_ne, bne_iff_ne] at kept
    have noSlash : '/' ∉ (String.ofList chars).toList := by
      rw [String.toList_ofList]
      exact Text.not_mem_of_mem_splitOn mem
    refine ⟨⟨noSlash, kept.1, kept.2, bne_iff_ne.mp notParent⟩, ?_⟩
    have leads := leadsTo_intercalate last
    rwa [Text.intercalate_splitOn rfl] at leads
  · rintro ⟨file, leads⟩
    exact ⟨leads.getLast?_names file, bne_iff_ne.mpr file.notParent⟩

end FileName

section Extension

variable {path name extension : String}

/-- A text is cut at its last dot by reading it backwards. -/
lemma eq_append_lastDot {chars stem : List Char} {c : Char}
    (behind : chars.reverse.dropWhile (· != '.') = c :: stem) :
    chars = stem.reverse ++ '.' :: (chars.reverse.takeWhile (· != '.')).reverse := by
  have dot : c = '.' := by
    have stops := List.head?_dropWhile_not (· != '.') chars.reverse
    simpa [behind] using stops
  calc
    chars = (chars.reverse.takeWhile (· != '.') ++ c :: stem).reverse := by
      rw [← behind, List.takeWhile_append_dropWhile, List.reverse_reverse]
    _ = stem.reverse ++ '.' :: (chars.reverse.takeWhile (· != '.')).reverse := by
      rw [dot, List.reverse_append, List.reverse_cons, List.append_assoc, List.singleton_append]

/-- The extension of a name is what comes behind its last dot, if anything is in front of that. -/
lemma extensionOfName?_eq_some_iff :
    extensionOfName? name = some extension ↔
      ∃ stem, stem ≠ "" ∧ '.' ∉ extension.toList ∧ name = stem ++ "." ++ extension := by
  constructor
  · intro found
    cases behind : name.toList.reverse.dropWhile (· != '.') with
    | nil =>
      simp only [extensionOfName?, behind] at found
      cases found
    | cons c stem =>
      simp only [extensionOfName?, behind] at found
      split_ifs at found with empty
      cases found
      refine ⟨.ofList stem.reverse, ?_, ?_, ?_⟩
      · simpa using empty
      · intro mem
        rw [String.toList_ofList, List.mem_reverse] at mem
        exact absurd (List.mem_takeWhile_imp mem) (by decide)
      · apply String.toList_injective
        refine (eq_append_lastDot behind).trans ?_
        simp
  · rintro ⟨stem, nonempty, noDot, rfl⟩
    have reversed : (stem ++ "." ++ extension).toList.reverse =
        extension.toList.reverse ++ '.' :: stem.toList.reverse := by simp
    have other : ∀ c ∈ extension.toList.reverse, (c != '.') = true := by
      intro c mem
      rw [bne_iff_ne]
      rintro rfl
      exact noDot (List.mem_reverse.mp mem)
    simp only [extensionOfName?, reversed]
    rw [List.dropWhile_append_of_pos other, List.takeWhile_append_of_pos other]
    simp [nonempty]

/-- The extension of a path is the one that it has. -/
theorem extension?_eq_some_iff : extension? path = some extension ↔ HasExtension path extension := by
  simp only [extension?, Option.bind_eq_some_iff, fileName?_eq_some_iff,
    extensionOfName?_eq_some_iff, HasExtension]
  constructor
  · rintro ⟨_, ⟨file, leads⟩, stem, nonempty, noDot, rfl⟩
    exact ⟨stem, nonempty, noDot, file, leads⟩
  · rintro ⟨stem, nonempty, noDot, file, leads⟩
    exact ⟨_, ⟨file, leads⟩, stem, nonempty, noDot, rfl⟩

/-- A path without an extension leads to no name that has one. -/
lemma extension?_eq_none_iff : extension? path = none ↔ ∀ extension, ¬ HasExtension path extension := by
  rw [Option.eq_none_iff_forall_ne_some]
  exact forall_congr' fun _ => not_congr extension?_eq_some_iff

end Extension

end CodeClones.Path
