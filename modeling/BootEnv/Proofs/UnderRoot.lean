import BootEnv.Environment
import Mathlib.Data.List.DropRight

/-!
# Paths below a root

A path below a root starts with the root, as it is written, and goes on with the names of the path. What
could lead out of the root is a path that starts with a slash, since it would take the root's place. It
is made relative first: the names are kept, and the first of what is left starts with no slash.

* `names_relative`, `isAbsolute_relative`: a path made relative keeps its names and **is never absolute.**
* `names_join`, `isAbsolute_join`: what a join of a root and a relative path is.
* `Path.Extends`: a path goes on from a root.
* `extends_workspace`: **workspaces and environment files are below their root.**
-/

namespace BootEnv

namespace Path

variable {p : Path} {rest : List Char} {ns : List (List Char)}

section Names

/-- The names among pieces. -/
def meant (ns : List (List Char)) : List (List Char) := ns.filter fun n => !isIdle n

theorem names_eq_meant (p : Path) : p.names = meant (pieces p.text.toList) := rfl

theorem meant_append (ns ms : List (List Char)) : meant (ns ++ ms) = meant ns ++ meant ms :=
  List.filter_append ns ms

theorem meant_dropWhile (ns : List (List Char)) : meant (ns.dropWhile isIdle) = meant ns := by
  induction ns with
  | nil => rfl
  | cons n ns ih =>
    by_cases hn : isIdle n = true
    · rw [List.dropWhile_cons_of_pos hn, ih]
      simp [meant, hn]
    · rw [List.dropWhile_cons_of_neg hn]

/-- What is trimmed has no names in it. -/
theorem meant_trimIdle (ns : List (List Char)) : meant (trimIdle ns) = meant ns := by
  have hreverse : ∀ ms, meant ms.reverse = (meant ms).reverse := fun ms => List.filter_reverse ..
  unfold trimIdle
  rw [hreverse, meant_dropWhile, hreverse, List.reverse_reverse, meant_dropWhile]

theorem meant_pieces_joinNames (h : ∀ n ∈ ns, '/' ∉ n) : meant (pieces (joinNames ns)) = meant ns := by
  by_cases hns : ns = []
  · subst hns
    rfl
  · unfold pieces joinNames
    rw [Text.segments_intercalate hns h]

end Names

section Relative

theorem isPrefix_trimIdle (ns : List (List Char)) : trimIdle ns <+: ns.dropWhile isIdle :=
  List.rdropWhile_prefix isIdle _

theorem mem_of_mem_trimIdle {n : List Char} (h : n ∈ trimIdle ns) : n ∈ ns :=
  (List.dropWhile_suffix isIdle).mem ((isPrefix_trimIdle ns).mem h)

theorem slash_notMem_trimIdle_pieces (cs : List Char) : ∀ n ∈ trimIdle (pieces cs), '/' ∉ n := by
  intro n hn hslash
  exact absurd (Text.segments_not_mem (mem_of_mem_trimIdle hn) '/' hslash) (by decide)

theorem text_relative (h : p.text.toList = '/' :: rest) :
    p.relative.text.toList = joinNames (trimIdle (pieces rest)) := by
  unfold relative
  rw [h]
  exact String.toList_ofList

theorem relative_of_isAbsolute_eq_false (h : p.isAbsolute = false) : p.relative = p := by
  unfold relative
  split
  next rest hp => simp [isAbsolute, hp] at h
  next => rfl

theorem exists_rest_of_isAbsolute (h : p.isAbsolute = true) : ∃ rest, p.text.toList = '/' :: rest :=
  List.head?_eq_some_iff.1 (by simpa [isAbsolute] using h)

/-- **A path made relative keeps its names.** -/
theorem names_relative (p : Path) : p.relative.names = p.names := by
  cases habs : p.isAbsolute with
  | false => rw [relative_of_isAbsolute_eq_false habs]
  | true =>
    obtain ⟨rest, hp⟩ := exists_rest_of_isAbsolute habs
    have hpieces : pieces p.text.toList = [] :: pieces rest := by
      rw [hp]
      exact Text.segments_cons_of_pos (by decide) rest
    rw [names_eq_meant, names_eq_meant, text_relative hp,
      meant_pieces_joinNames (slash_notMem_trimIdle_pieces rest), meant_trimIdle, hpieces]
    rfl

/-- **A path made relative is not absolute.** -/
theorem isAbsolute_relative (p : Path) : p.relative.isAbsolute = false := by
  cases habs : p.isAbsolute with
  | false => rw [relative_of_isAbsolute_eq_false habs, habs]
  | true =>
    obtain ⟨rest, hp⟩ := exists_rest_of_isAbsolute habs
    have hslash := slash_notMem_trimIdle_pieces rest
    unfold isAbsolute
    rw [text_relative hp, beq_eq_false_iff_ne]
    cases htrim : trimIdle (pieces rest) with
    | nil => simp [joinNames]
    | cons n ns =>
      -- the first name left is none that stands for nothing, so it gives the first character
      have hidle : isIdle n = false := by
        obtain ⟨tail, htail⟩ := isPrefix_trimIdle (pieces rest)
        have hhead := List.head?_dropWhile_not isIdle (pieces rest)
        rw [← htail, htrim] at hhead
        exact hhead
      obtain ⟨c, n, rfl⟩ : ∃ c cs, n = c :: cs := by
        refine List.exists_cons_of_ne_nil ?_
        rintro rfl
        exact absurd hidle (by decide)
      have hc : c ≠ '/' := by
        rintro rfl
        exact hslash _ (htrim ▸ List.mem_cons_self) List.mem_cons_self
      have hhead : (joinNames ((c :: n) :: ns)).head? = some c := by
        unfold joinNames
        cases ns with
        | nil => simp
        | cons m ns => simp [List.intercalate_cons_cons]
      rw [hhead]
      simpa using hc

end Relative

section Join

theorem pieces_append_slash (a b : List Char) : pieces (a ++ '/' :: b) = pieces a ++ pieces b :=
  Text.segments_append_cons (by decide) a b

/-- A text behind a slash, or behind nothing, adds its names. -/
theorem meant_pieces_append {a : List Char} (h : a = [] ∨ a.getLast? = some '/') (b : List Char) :
    meant (pieces (a ++ b)) = meant (pieces a) ++ meant (pieces b) := by
  rcases h with rfl | h
  · rfl
  · obtain ⟨a, rfl⟩ := List.getLast?_eq_some_iff.1 h
    rw [List.append_assoc, List.singleton_append, pieces_append_slash, meant_append,
      pieces_append_slash, meant_append]
    simp [meant, pieces, Text.segments, isIdle]

/-- How a relative path is joined to a root. -/
theorem text_join (root : Path) (h : p.isAbsolute = false) :
    (root.join p).text = root.text ++ p.text ∧
        (root.text = "" ∨ root.text.toList.getLast? = some '/') ∨
      (root.text ≠ "" ∧ (root.join p).text = root.text ++ "/" ++ p.text) := by
  unfold join
  rw [h, if_neg Bool.false_ne_true]
  split_ifs with hends
  · exact .inl ⟨rfl, hends⟩
  · exact .inr ⟨fun hempty => hends (.inl hempty), rfl⟩

/-- **A joined path has the names of both.** -/
theorem names_join (root : Path) (h : p.isAbsolute = false) : (root.join p).names = root.names ++ p.names := by
  rw [names_eq_meant, names_eq_meant, names_eq_meant]
  rcases text_join root h with ⟨htext, hends⟩ | ⟨-, htext⟩
  · rw [htext, String.toList_append]
    refine meant_pieces_append ?_ _
    simpa using hends
  · rw [htext, String.toList_append, String.toList_append, List.append_assoc]
    exact (congrArg meant (pieces_append_slash _ _)).trans (meant_append _ _)

theorem isPrefix_join (root : Path) (h : p.isAbsolute = false) : root.text.toList <+: (root.join p).text.toList := by
  rcases text_join root h with ⟨htext, -⟩ | ⟨-, htext⟩
  · rw [htext, String.toList_append]
    exact List.prefix_append _ _
  · rw [htext, String.append_assoc, String.toList_append]
    exact List.prefix_append _ _

/-- **A joined path is absolute when the root is.** -/
theorem isAbsolute_join (root : Path) (h : p.isAbsolute = false) : (root.join p).isAbsolute = root.isAbsolute := by
  by_cases hroot : root.text = ""
  · rcases text_join root h with ⟨htext, -⟩ | ⟨hne, -⟩
    · have hp : (root.join p).isAbsolute = p.isAbsolute := by simp [isAbsolute, htext, hroot]
      rw [hp, h]
      simp [isAbsolute, hroot]
    · exact absurd hroot hne
  · obtain ⟨c, cs, hc⟩ := List.exists_cons_of_ne_nil (mt String.toList_eq_nil_iff.1 hroot)
    obtain ⟨tail, htail⟩ := isPrefix_join root h
    unfold isAbsolute
    rw [← htail, hc]
    rfl

end Join

section Under

/-- **A path goes on from a root**: with the root's text in front, the names of the root and then those
of `p`, and absolute as the root is. -/
structure Extends (root p q : Path) : Prop where
  starts : root.text.toList <+: q.text.toList
  names_eq : q.names = root.names ++ p.names
  isAbsolute_eq : q.isAbsolute = root.isAbsolute

/-- **A path below a root goes on from it**, also when it is absolute. -/
theorem extends_under (root p : Path) : root.Extends p (root.under p) := by
  have hrelative := isAbsolute_relative p
  refine ⟨isPrefix_join root hrelative, ?_, isAbsolute_join root hrelative⟩
  rw [under, names_join root hrelative, names_relative]

/-- A root ended by slashes, and a workspace with slashes and dots in front, behind and inside. -/
example : ((⟨"/media//"⟩ : Path).under ⟨"//./var//./lib/./"⟩).text = "/media//var//./lib" := by
  decide +kernel

/-- **Workspaces and environment files are below their root.** -/
theorem extends_workspace :
    (∀ (root configRoot workspacePath : Path) (keyName : String) (m : Metadata) (h : Host)
      (lookup : Lookup) (names : List String),
      root.Extends workspacePath (names.foldl Environment.setKeyName
        (Environment.build root configRoot workspacePath keyName m h lookup).value).workspace) ∧
    ∀ (f : EnvFile) (root : Path), root.Extends f.path (f.pathUnder root) := by
  refine ⟨fun root configRoot workspacePath keyName m h lookup names => ?_, fun f root =>
    extends_under root f.path⟩
  have hkeys : ∀ (e : Environment) (names : List String),
      (names.foldl Environment.setKeyName e).workspace = e.workspace := by
    intro e names
    induction names generalizing e with
    | nil => rfl
    | cons name names ih => exact ih (e.setKeyName name)
  rw [hkeys]
  exact extends_under root workspacePath

end Under

end Path

end BootEnv
