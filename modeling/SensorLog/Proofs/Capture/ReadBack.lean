import SensorLog.Proofs.Capture.Outcome

/-!
# Captures read back as written

A text that is laid out as a capture is read without a fault, and its packets are those that were written, in their
order (`packetsOf_layout`). That a return in front of a line feed belongs to the end of the line leaves no text out: a
line that ends in a return holds the same without it (`Layout.feed`).
-/

namespace SensorLog.Capture

variable {packet? : Option Bytes} {packets : List Bytes} {front line rest : List Char}

/-- A return at the end of a line says nothing. -/
theorem IsLine.of_return (held : IsLine packet? (front ++ ['\r'])) : IsLine packet? front := by
  generalize whole : front ++ ['\r'] = line at held
  obtain ⟨content, commented⟩ := held
  cases commented with
  | none =>
      rw [List.append_nil] at whole
      subst whole
      rw [← List.append_nil front]
      refine .line ?_ .none
      cases content with
      | packet solid spells =>
          rcases spells.known '\r' (List.mem_append_right front (.head _)) with gap | ⟨n, digit⟩
          · exact absurd gap (by decide)
          · exact absurd rfl (Hex.ne_of_value? digit (by decide))
      | blank blank single =>
          exact .blank (fun c member => blank c (List.mem_append_left _ member))
            fun member => single (List.mem_append_left _ member)
  | @comment remark single =>
      rcases List.eq_nil_or_concat remark with rfl | ⟨shorter, last, rfl⟩
      · have ends := congrArg List.getLast? whole
        rw [List.getLast?_concat, List.getLast?_concat] at ends
        cases ends
      · rw [List.concat_eq_append, ← List.cons_append, ← List.append_assoc] at whole
        obtain ⟨rfl, -⟩ := List.append_inj' whole rfl
        rw [List.concat_eq_append] at single
        exact .line content (.comment fun member => single (List.mem_append_left _ member))

/-- Any line may end in a line feed. -/
theorem Layout.feed (held : IsLine packet? line) (later : Layout packets rest) :
    Layout (packet?.toList ++ packets) (line ++ '\n' :: rest) := by
  by_cases return' : line.getLast? = some '\r'
  · obtain ⟨front, rfl⟩ := List.getLast?_eq_some_iff.1 return'
    have whole := Layout.line held.of_return .returnFeed nofun later
    rw [List.append_assoc] at whole ⊢
    exact whole
  · have whole := Layout.line held .feed (fun _ => return') later
    rwa [List.append_assoc] at whole

/-- Lines that are read have no fault, and their packets are those that are read. -/
theorem parses_of_reads {lines packets : List Bytes} (reads : Reads lines packets) :
    parses lines = true ∧ packetsOf lines = packets := by
  induction reads with
  | nil => exact ⟨rfl, rfl⟩
  | @cons line text packet? lines packets decoded read later ih =>
      obtain ⟨parsed, held⟩ := ih
      have content : content? line = some packet? := by
        rw [content?, decoded]
        simp only [read, Except.toOption]
      constructor
      · rw [parses, List.all_cons, content, Option.isSome_some, Bool.true_and]
        exact parsed
      · rw [packetsOf, List.takeWhile_cons_of_pos (by rw [content]; rfl), List.filterMap_cons, content,
          ← held, packetsOf]
        cases packet? <;> rfl

/-- A capture that holds packets is read line by line without a fault, and gives exactly these packets. -/
theorem packetsOf_layout {packets : List Bytes} {text : String} (layout : Layout packets text.toList) :
    parses (lines (Bytes.ofText text)) = true ∧ packetsOf (lines (Bytes.ofText text)) = packets := by
  have reads := reads_of_layout layout
  rw [String.ofList_toList] at reads
  exact parses_of_reads reads

/-- Two packets in both cases, with comments, a comment that holds digits, a blank line and both line ends. -/
theorem packetsOf_layout_commented :
    let packets : List Bytes := [[0x0A, 0xFF], [0xC0]]
    let text := String.ofList (['0', 'a', '\t', 'F', 'f', ' ', '#', '0', '1', '#'] ++ ['\r', '\n'] ++
      ([' ', '#', 'a', 'b'] ++ '\n' :: ([] ++ ['\r', '\n'] ++ ['C', ' ', '0'])))
    Layout packets text.toList ∧ parses (lines (Bytes.ofText text)) = true ∧
      packetsOf (lines (Bytes.ofText text)) = packets := by
  intro packets text
  have first : IsLine (some [0x0A, 0xFF]) (['0', 'a', '\t', 'F', 'f', ' '] ++ ['#', '0', '1', '#']) :=
    .line (.packet (by decide) (Hex.spells_iff.2 (by decide +kernel))) (.comment (by decide))
  have second : IsLine none ([' '] ++ ['#', 'a', 'b']) :=
    .line (.blank (List.all_eq_true.1 (by decide)) (by decide)) (.comment (by decide))
  have third : IsLine none ([] ++ []) := .line (.blank nofun nofun) .none
  have fourth : IsLine (some [0xC0]) (['C', ' ', '0'] ++ []) :=
    .line (.packet (by decide) (Hex.spells_iff.2 (by decide +kernel))) .none
  have layout : Layout packets text.toList := by
    rw [String.toList_ofList]
    exact .line first .returnFeed nofun (.feed second (.line third .returnFeed nofun (.last fourth nofun)))
  exact ⟨layout, packetsOf_layout layout⟩

end SensorLog.Capture
