/-
  OvsdbModels/Proofs/Source/Lines.lean
  ====================================
  **Lines written again.**

  A text is cut into lines and the lines are written one by one.  What comes back is the text, with line
  feeds alone for line ends and with its last line ended too; a margin stands before every line that is
  not empty (`emitAll_lines`).  All of it is read off one line at a time: `lines_induction` takes a text
  apart at its first line feed, and each operation has a lemma for a line in front of a text.
-/
import Mathlib.Data.List.Infix
import OvsdbModels.Proofs.Source.Writing
import OvsdbModels.Text.Replace
import OvsdbModels.Proofs.Text.Split

namespace OvsdbModels.Source

open Text (dropReturn replaceAll replaceFrom)

/-! ### What comes back -/

/-- A text with its last line ended: a line feed is added, unless the text is empty or ends in one. -/
def ended (s : List Char) : List Char :=
  if s = [] ∨ s.getLast? = some '\n' then s else s ++ ['\n']

/-- A text with a margin in front of every line that is not empty; `fresh` tells whether the text
begins with a line. -/
def indented (margin : List Char) (fresh : Bool) : List Char → List Char
  | [] => []
  | c :: rest =>
    (if fresh ∧ c ≠ '\n' then margin ++ [c] else [c]) ++ indented margin (c = '\n') rest

/-- The characters of a line behind a margin; an empty line has no margin. -/
def lineChars (margin line : List Char) : List Char :=
  if line = [] then ['\n'] else margin ++ line ++ ['\n']

/-! ### One line in front of a text -/

/-- A text has no line feed, or a line in front of its first one. -/
theorem lines_induction {motive : List Char → Prop} (last : ∀ line, '\n' ∉ line → motive line)
    (step : ∀ line rest, '\n' ∉ line → motive rest → motive (line ++ '\n' :: rest))
    (s : List Char) : motive s := by
  induction hn : s.length using Nat.strongRecOn generalizing s with
  | _ n ih =>
    subst hn
    by_cases hmem : '\n' ∈ s
    · obtain ⟨line, rest, rfl, hline⟩ := List.eq_append_cons_of_mem hmem
      refine step line rest hline (ih rest.length ?_ rest rfl)
      rw [List.length_append, List.length_cons]
      omega
    · exact last s hmem

theorem ended_append (line rest : List Char) :
    ended (line ++ '\n' :: rest) = line ++ '\n' :: ended rest := by
  cases rest with
  | nil => simp [ended]
  | cons c rest =>
    have hlast : (line ++ '\n' :: c :: rest).getLast? = (c :: rest).getLast? := by
      rw [List.getLast?_append_of_ne_nil line (List.cons_ne_nil _ _), List.getLast?_cons_cons]
    rw [ended, ended, hlast]
    by_cases hend : (c :: rest).getLast? = some '\n'
    · rw [if_pos (Or.inr hend), if_pos (Or.inr hend)]
    · rw [if_neg (by simp [hend]), if_neg (by simp [hend]), List.append_assoc, List.cons_append]

section

variable {line : List Char} (hline : '\n' ∉ line)

include hline

theorem lines_append (rest : List Char) :
    Text.lines (line ++ '\n' :: rest) = dropReturn line :: Text.lines rest := by
  rw [Text.lines, Text.splitAll_append_cons (decide_eq_true rfl), Text.splitAll_of_notMem hline,
    List.singleton_append]
  obtain ⟨part, parts, hparts⟩ := List.exists_cons_of_ne_nil (Text.splitAll_ne_nil (· = '\n') rest)
  rw [Text.lines, hparts]
  rfl

theorem lines_of_notMem : Text.lines line = if line.isEmpty then [] else [line] := by
  rw [Text.lines, Text.splitAll_of_notMem hline]
  rfl

theorem ended_of_notMem (hne : line ≠ []) : ended line = line ++ ['\n'] := by
  have hlast : line.getLast? ≠ some '\n' := fun heq => hline (List.mem_of_getLast? heq)
  exact if_neg (not_or.mpr ⟨hne, hlast⟩)

theorem indented_false_append (margin rest : List Char) :
    indented margin false (line ++ '\n' :: rest) = line ++ '\n' :: indented margin true rest := by
  induction line with
  | nil => simp [indented]
  | cons c line ih =>
    obtain ⟨hc, hline⟩ := not_or.mp (mt List.mem_cons.mpr hline)
    simp [indented, ih hline, Ne.symm hc]

theorem indented_append (margin rest : List Char) :
    indented margin true (line ++ '\n' :: rest) =
      lineChars margin line ++ indented margin true rest := by
  cases line with
  | nil => simp [indented, lineChars]
  | cons c line =>
    obtain ⟨hc, hline⟩ := not_or.mp (mt List.mem_cons.mpr hline)
    simp [indented, indented_false_append hline, lineChars, Ne.symm hc]

end

/-! ### Carriage returns -/

/-- A text in which a line feed alone ends a line. -/
def withFeeds (s : List Char) : List Char := replaceFrom ['\r', '\n'] ['\n'] 0 s

/-- A stretch without line feeds is kept, unless it ends in the carriage return of a line end. -/
theorem withFeeds_append {front t : List Char} (hfront : '\n' ∉ front)
    (hcut : front.getLast? = some '\r' → t.head? ≠ some '\n') :
    withFeeds (front ++ t) = front ++ withFeeds t := by
  induction front with
  | nil => rfl
  | cons c front ih =>
    obtain ⟨-, hrest⟩ := not_or.mp (mt List.mem_cons.mpr hfront)
    have hnot : ¬ ['\r', '\n'] <+: c :: (front ++ t) := by
      intro hbegins
      obtain ⟨rfl, hfeed⟩ := List.cons_prefix_cons.mp hbegins
      cases front with
      | nil =>
        obtain ⟨after, rfl⟩ := hfeed
        exact hcut rfl rfl
      | cons d front =>
        obtain ⟨rfl, -⟩ := List.cons_prefix_cons.mp hfeed
        exact hrest List.mem_cons_self
    have hcut' : front.getLast? = some '\r' → t.head? ≠ some '\n' := by
      intro hlast
      apply hcut
      rw [List.getLast?_cons, hlast]
      rfl
    rw [List.cons_append, withFeeds, Text.replaceFrom_cons hnot, ← withFeeds, ih hrest hcut',
      List.cons_append]

theorem withFeeds_newline (rest : List Char) : withFeeds ('\n' :: rest) = '\n' :: withFeeds rest :=
  Text.replaceFrom_cons (Text.not_prefix_of_ne (by decide)) _

section

variable {line : List Char} (hline : '\n' ∉ line)

include hline

theorem withFeeds_of_notMem : withFeeds line = line := by
  have hfeeds := withFeeds_append (t := []) hline (fun _ => nofun)
  rw [List.append_nil] at hfeeds
  rw [hfeeds]
  exact List.append_nil line

theorem withFeeds_append_newline (rest : List Char) :
    withFeeds (line ++ '\n' :: rest) = dropReturn line ++ '\n' :: withFeeds rest := by
  by_cases hlast : line.getLast? = some '\r'
  · obtain ⟨front, rfl⟩ := List.getLast?_eq_some_iff.mp hlast
    have hfront : '\n' ∉ front := fun hmem => hline (List.mem_append_left _ hmem)
    have hdrop : dropReturn (front ++ ['\r']) = front := by
      rw [dropReturn, hlast]
      exact List.dropLast_concat
    have hpair : withFeeds ('\r' :: '\n' :: rest) = '\n' :: withFeeds rest :=
      Text.replaceFrom_word_append (List.cons_ne_nil _ _) ['\n'] rest
    rw [hdrop, List.append_assoc, List.singleton_append,
      withFeeds_append hfront (fun _ => by simp), hpair]
  · have hdrop : dropReturn line = line := by
      unfold dropReturn
      split
      · rename_i heq
        exact absurd heq hlast
      · rfl
    rw [hdrop, withFeeds_append hline (fun heq => absurd heq hlast), withFeeds_newline]

theorem newline_notMem_dropReturn : '\n' ∉ dropReturn line := by
  unfold dropReturn
  split
  · exact fun hmem => hline (List.mem_of_mem_dropLast hmem)
  · exact hline

end

/-! ### Lines of a text -/

/-- The lines of a text behind a margin, one after another. -/
theorem flatMap_lineChars (margin s : List Char) :
    (Text.lines s).flatMap (lineChars margin) = indented margin true (ended (withFeeds s)) := by
  induction s using lines_induction with
  | last line hline =>
    rw [lines_of_notMem hline, withFeeds_of_notMem hline]
    cases line with
    | nil => simp [ended, indented]
    | cons c line =>
      rw [ended_of_notMem hline (List.cons_ne_nil c line), indented_append hline]
      rfl
  | step line rest hline ih =>
    rw [lines_append hline, withFeeds_append_newline hline, ended_append,
      indented_append (newline_notMem_dropReturn hline), List.flatMap_cons, ih]

/-- Without a margin every line stands as it is. -/
theorem indented_nil (fresh : Bool) (s : List Char) : indented [] fresh s = s := by
  induction s generalizing fresh with
  | nil => rfl
  | cons c rest ih => simp [indented, ih]

/-- A text without a carriage return directly before a line feed has only line feeds for line ends. -/
theorem withFeeds_of_noReturns {s : List Char} (h : ¬ ['\r', '\n'] <:+: s) : withFeeds s = s := by
  induction s with
  | nil => rfl
  | cons c rest ih =>
    have hprefix : ¬ ['\r', '\n'] <+: c :: rest := fun hprefix => h hprefix.isInfix
    have hrest : ¬ ['\r', '\n'] <:+: rest := fun hinfix => h (List.infix_cons hinfix)
    rw [withFeeds, Text.replaceFrom_cons hprefix, ← withFeeds, ih hrest]

/-! ### Written again -/

theorem toList_lineText (margin : String) (line : List Char) :
    (lineText margin (String.ofList line)).toList = lineChars margin.toList line := by
  cases line with
  | nil => simp [lineText, lineChars]
  | cons c line =>
    have hne : String.ofList (c :: line) ≠ "" := by simp
    rw [lineText_of_ne hne]
    simp [lineChars]

/-- The text of the lines of a text, at any level. -/
theorem toList_texts_lines (unit : String) (level : Nat) (text : String) :
    (Fragment.texts unit level (Fragment.lines text)).toList =
      indented (marginText unit level).toList true (ended (withFeeds text.toList)) := by
  have hjoin : ∀ parts : List String, (String.join parts).toList = parts.flatMap String.toList := by
    intro parts
    induction parts with
    | nil => rfl
    | cons part parts ih => rw [String.join_cons, String.toList_append, ih, List.flatMap_cons]
  rw [Fragment.lines, textLines, Fragment.texts_lines, hjoin, List.map_map, List.flatMap_map,
    ← flatMap_lineChars]
  simp only [Function.comp_apply, toList_lineText]

theorem text_emitAll_lines (indent : Indent) (level : Nat) (text : String) :
    (({ indent, level } : Writer).emitAll (Fragment.lines text)).text =
      String.ofList (indented (marginText indent.text level).toList true
        (ended (withFeeds text.toList))) := by
  rw [Writer.emitAll_eq, ← toList_texts_lines, String.ofList_toList]
  exact String.empty_append ..

theorem toList_replaceAll (text : String) :
    (replaceAll "\r\n" "\n" text).toList = withFeeds text.toList :=
  String.toList_ofList

/-- The lines of a text, written into an empty writer, give the text with its last line ended and with
line feeds alone for line ends; at a level below, a margin stands in front of the lines that are not
empty. -/
theorem emitAll_lines (indent : Indent) (text : String) :
    (¬ ['\r', '\n'] <:+: text.toList →
      (({ indent } : Writer).emitAll (Fragment.lines text)).text = String.ofList (ended text.toList)) ∧
    (({ indent } : Writer).emitAll (Fragment.lines text)).text =
      String.ofList (ended (replaceAll "\r\n" "\n" text).toList) ∧
    ∀ level, (({ indent, level } : Writer).emitAll (Fragment.lines text)).text =
      String.ofList (indented (String.join (List.replicate level indent.text)).toList true
        (({ indent } : Writer).emitAll (Fragment.lines text)).text.toList) := by
  have htext : (({ indent } : Writer).emitAll (Fragment.lines text)).text =
      String.ofList (ended (withFeeds text.toList)) := by
    rw [text_emitAll_lines, marginText_zero, String.toList_empty, indented_nil]
  rw [htext, toList_replaceAll, String.toList_ofList]
  refine ⟨fun hpair => ?_, rfl, fun level => text_emitAll_lines indent level text⟩
  rw [withFeeds_of_noReturns hpair]

/-- A carriage return at the very end is kept; one before a line feed is not, and leaves an empty line
without a margin. -/
theorem emitAll_lines_returns :
    ¬ ['\r', '\n'] <:+: "a\n\n\tb\r".toList ∧
    (({ indent := .tab } : Writer).emitAll (Fragment.lines "a\n\n\tb\r")).text = "a\n\n\tb\r\n" ∧
    (({ indent := .tab } : Writer).emitAll (Fragment.lines "x\r\n\r\ny\r\r\n")).text = "x\n\ny\r\n" ∧
    (({ indent := .tab, level := 2 } : Writer).emitAll (Fragment.lines "x\r\n\r\ny\r\r\n")).text =
      "\t\tx\n\n\t\ty\r\n" := by
  have hpair : ¬ ['\r', '\n'] <:+: "a\n\n\tb\r".toList := by decide
  have hkept := (emitAll_lines .tab "a\n\n\tb\r").1 hpair
  obtain ⟨-, hfeeds, hlevel⟩ := emitAll_lines .tab "x\r\n\r\ny\r\r\n"
  refine ⟨hpair, hkept.trans (by decide), hfeeds.trans (by decide), (hlevel 2).trans ?_⟩
  rw [hfeeds]
  decide

end OvsdbModels.Source
