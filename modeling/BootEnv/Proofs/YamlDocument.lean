import BootEnv.Proofs.YamlTokens
import BootEnv.Yaml.Document

/-!
# The documents of flat YAML mappings

The tokens of a line come to two nodes, and nothing but the end of the mapping stands behind the last
line. A document with a key beyond the limit is not read to its end.

* `run_line`, `run_tokensBehind`: the events of one line, then of those behind it.
* `readEvents_nodes`: nodes without anchors.
* `ofText_linesText`, `isComplete_ofText_linesText_iff`: **the document of lines, and when it is
  complete.**
-/

namespace BootEnv.Yaml

/-- The nodes of an entry. -/
def Line.nodes (k : Line) : List Node :=
  [.scalar none ⟨k.key, true⟩, .scalar none ⟨k.value, false⟩]

/-- The nodes of lines. -/
def nodesOfLines (ks : List Line) : List Node := ks.flatMap Line.nodes

/-- No key of the lines is beyond the limit. -/
def AreShort (ks : List Line) : Prop := ∀ k ∈ ks, k.key.length ≤ Lexer.maxKey

variable {k : Line} {ks : List Line}

namespace Reader

/-- **The tokens of a line come to its nodes**, and the next entry is due. -/
theorem run_line (k : Line) (ts : List Token) :
    run ⟨[], .entry⟩ (k.tokens ++ ts) =
      ⟨k.nodes.map (.node none) ++ (run ⟨[], .entry⟩ ts).events,
        (run ⟨[], .entry⟩ ts).isComplete⟩ :=
  rfl

theorem run_blockMap (ts : List Token) :
    run {} (.blockMap :: ts) =
      ⟨.node none .map :: (run ⟨[], .entry⟩ ts).events, (run ⟨[], .entry⟩ ts).isComplete⟩ :=
  rfl

theorem run_tokensBehind (h : AreShort ks) :
    run ⟨[], .entry⟩ (tokensBehind ks) =
      ⟨(nodesOfLines ks).map (.node none) ++ [.close], true⟩ := by
  induction ks with
  | nil => rfl
  | cons k ks ih =>
    rw [tokensBehind, if_pos (h k List.mem_cons_self), run_line,
      ih fun x hx => h x (List.mem_cons_of_mem k hx)]
    simp [nodesOfLines]

theorem isComplete_run_tokensBehind (h : ¬AreShort ks) :
    (run ⟨[], .entry⟩ (tokensBehind ks)).isComplete = false := by
  induction ks with
  | nil => exact absurd (by simp [AreShort]) h
  | cons k ks ih =>
    rw [tokensBehind]
    split
    next hlen =>
      -- this key is short, so a later one is not
      rw [run_line]
      refine ih fun hks => h ?_
      simpa [AreShort, hlen] using hks
    next => rfl

end Reader

/-- **Nodes without anchors are parts of the document** and change nothing else. -/
theorem Anchors.readEvents_nodes (a : Anchors) (isComplete : Bool) (ns : List Node)
    (es : List Event) :
    a.readEvents isComplete (ns.map (.node none) ++ es) =
      { a.readEvents isComplete es with
        parts := ns.map .node ++ (a.readEvents isComplete es).parts } := by
  induction ns with
  | nil => rfl
  | cons n ns ih =>
    rw [List.map_cons, List.cons_append, readEvents]
    simp only [ih]
    rfl

/-- What is not complete does not become so by its references. -/
theorem Anchors.isComplete_readEvents (a : Anchors) (es : List Event) :
    (a.readEvents false es).isComplete = false := by
  induction es generalizing a with
  | nil => rfl
  | cons e es ih =>
    -- only a name that is not known ends the document early, and then it is not complete either
    rcases e with ⟨_ | name, n⟩ | name | _
    · exact ih a
    · exact ih (a.add name n)
    · simp only [readEvents]
      split
      next => exact ih a
      next => rfl
    · exact ih a

namespace Document

theorem ofText_linesText_nil (isEnded : Bool) :
    ofText (linesText isEnded []) = ⟨[], {}, true⟩ := by
  rw [ofText, Reading.ofText, tokensOf_linesText]
  rfl

/-- **The document of lines** holds their nodes in their order. -/
theorem ofText_linesText (isEnded : Bool) (hks : ks ≠ []) (h : AreShort ks) :
    ofText (linesText isEnded ks) =
      ⟨.node .map :: ((nodesOfLines ks).map .node ++ [.close]), {}, true⟩ := by
  obtain ⟨k, ks, rfl⟩ := List.exists_cons_of_ne_nil hks
  have hreading : Reading.ofText (linesText isEnded (k :: ks)) =
      ⟨(.map :: nodesOfLines (k :: ks)).map (.node none) ++ [.close], true⟩ := by
    rw [Reading.ofText, tokensOf_linesText, tokensOfLines, if_pos (h k List.mem_cons_self),
      Reader.run_blockMap, Reader.run_tokensBehind h]
    rfl
  rw [ofText, hreading, ofReading, Anchors.readEvents_nodes]
  rfl

/-- **A document of lines is complete unless a key is beyond the limit.** -/
theorem isComplete_ofText_linesText_iff (isEnded : Bool) :
    (ofText (linesText isEnded ks)).isComplete = true ↔ AreShort ks := by
  constructor
  · intro hcomplete
    by_contra hlong
    have hreading : (Reading.ofText (linesText isEnded ks)).isComplete = false := by
      rw [Reading.ofText, tokensOf_linesText]
      cases ks with
      | nil => exact absurd (by simp [AreShort]) hlong
      | cons k ks =>
        rw [tokensOfLines]
        split
        next =>
          rw [Reader.run_blockMap]
          exact Reader.isComplete_run_tokensBehind hlong
        next => rfl
    rw [ofText, ofReading, hreading, Anchors.isComplete_readEvents] at hcomplete
    exact Bool.noConfusion hcomplete
  · intro hshort
    by_cases hks : ks = []
    · rw [hks, ofText_linesText_nil]
    · rw [ofText_linesText isEnded hks hshort]

end Document

end BootEnv.Yaml
