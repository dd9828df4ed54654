import SensorLog.Capture.Line
import SensorLog.Proofs.Bytes.HexText

/-!
# Captures as they are written

`Layout` says how a text holds packets: the digits of each on a line of its own, with spaces and tabs, perhaps
a comment behind them, and any blank lines and comments in between; lines end in a line feed, which may follow
a carriage return. Read line by line such a text gives these packets and nothing else (`reads_of_layout`), and
there is one for every list of packets (`layout_ofPackets`).
-/

namespace SensorLog.Capture

/-! ## Lines -/

/-- What stands on a line in front of a comment: a packet, or nothing. -/
inductive Content : Option Bytes → List Char → Prop
  | packet {packet : Bytes} {cs : List Char} (solid : packet ≠ []) (spells : Hex.Spells packet cs) :
      Content (some packet) cs
  | blank {cs : List Char} (blank : ∀ c ∈ cs, Text.isBlank c = true) (single : '\n' ∉ cs) : Content none cs

/-- A comment up to the end of its line, or none. -/
inductive Remark : List Char → Prop
  | none : Remark []
  | comment {cs : List Char} (single : '\n' ∉ cs) : Remark ('#' :: cs)

/-- A line without its end, and the packet on it. -/
inductive IsLine : Option Bytes → List Char → Prop
  | line {packet? : Option Bytes} {cs remark : List Char} (content : Content packet? cs)
      (commented : Remark remark) : IsLine packet? (cs ++ remark)

/-- How a line ends. -/
inductive LineEnd
  | feed
  | returnFeed

/-- The characters of a line end. -/
def LineEnd.chars : LineEnd → List Char
  | feed => ['\n']
  | returnFeed => ['\r', '\n']

/-- A text that holds packets. A return in front of a line feed belongs to the end of the line; the last line
    may lack its end. -/
inductive Layout : List Bytes → List Char → Prop
  | empty : Layout [] []
  | last {packet? : Option Bytes} {line : List Char} (held : IsLine packet? line) (some : line ≠ []) :
      Layout packet?.toList line
  | line {packet? : Option Bytes} {packets : List Bytes} {line rest : List Char} (held : IsLine packet? line)
      (ending : LineEnd) (whole : ending = .feed → line.getLast? ≠ some '\r') (later : Layout packets rest) :
      Layout (packet?.toList ++ packets) (line ++ ending.chars ++ rest)

/-- Lines that are read, and the packets on them. -/
inductive Reads : List Bytes → List Bytes → Prop
  | nil : Reads [] []
  | cons {line : Bytes} {text : String} {packet? : Option Bytes} {lines packets : List Bytes}
      (decoded : Bytes.text? line = some text) (read : Capture.packet? text = .ok packet?)
      (later : Reads lines packets) : Reads (line :: lines) (packet?.toList ++ packets)

/-! ## A line is read -/

theorem Content.notMem {packet? : Option Bytes} {cs : List Char} {d : Char} (content : Content packet? cs)
    (other : Hex.value? d = none) (solid : Hex.isGap d = false) (visible : Text.isBlank d = false) : d ∉ cs := by
  intro member
  cases content with
  | packet filled spells =>
      rcases spells.known d member with gap | ⟨n, digit⟩
      · rw [solid] at gap
        cases gap
      · exact Hex.ne_of_value? digit other rfl
  | blank blank single =>
      have invisible := blank d member
      rw [visible] at invisible
      cases invisible

theorem withoutComment_of_line {packet? : Option Bytes} {cs remark : List Char} (content : Content packet? cs)
    (commented : Remark remark) : withoutComment (String.ofList (cs ++ remark)) = String.ofList cs := by
  have plain : ∀ c ∈ cs, (c != '#') = true := by
    intro c member
    rw [bne_iff_ne]
    rintro rfl
    exact content.notMem (by decide) (by decide) (by decide) member
  rw [withoutComment, String.toList_ofList, List.takeWhile_append_of_pos plain]
  cases commented with
  | none => rw [List.takeWhile_nil, List.append_nil]
  | comment single => rw [List.takeWhile_cons_of_neg (by decide), List.append_nil]

theorem not_isBlank_of_value? {c : Char} {n : Nat} (digit : Hex.value? c = some n) :
    Text.isBlank c = false := by
  have range := Hex.range_of_value? digit
  simp only [Text.isBlank, Text.blankRanges, List.any_cons, List.any_nil, Bool.or_false, Bool.or_eq_false_iff,
    Bool.and_eq_false_iff, decide_eq_false_iff_not, Nat.not_le]
  omega

/-- The digits of a packet are not blank. -/
theorem not_all_isBlank {packet : Bytes} {cs : List Char} (solid : packet ≠ []) (spells : Hex.Spells packet cs) :
    ¬ cs.all Text.isBlank = true := by
  intro blank
  obtain ⟨b, rest, rfl⟩ := List.exists_cons_of_ne_nil solid
  obtain ⟨c, digits, digit, -, kept⟩ := List.forall₂_cons_left_iff.1 spells
  have member : c ∈ cs := by
    apply List.mem_of_mem_filter (p := (!Hex.isGap ·))
    rw [kept]
    exact .head _
  have visible := not_isBlank_of_value? digit
  rw [List.all_eq_true.1 blank c member] at visible
  cases visible

theorem packet?_of_line {packet? : Option Bytes} {line : List Char} (held : IsLine packet? line) :
    Capture.packet? (String.ofList line) = .ok packet? := by
  cases held with
  | line content commented =>
      rw [Capture.packet?, withoutComment_of_line content commented]
      simp only [String.toList_ofList]
      cases content with
      | packet solid spells =>
          simp only [if_neg (not_all_isBlank solid spells), Hex.read_of_spells spells]
      | blank blank single => rw [if_pos (List.all_eq_true.2 blank)]

theorem single_of_line {packet? : Option Bytes} {line : List Char} (held : IsLine packet? line) :
    '\n' ∉ line := by
  cases held with
  | line content commented =>
      rw [List.mem_append, not_or]
      constructor
      · cases content with
        | packet solid spells =>
            intro member
            rcases spells.known '\n' member with gap | ⟨n, digit⟩
            · revert gap
              decide
            · exact Hex.ne_of_value? digit (by decide) rfl
        | blank blank single => exact single
      · cases commented with
        | none => exact nofun
        | comment single =>
            rw [List.mem_cons, not_or]
            exact ⟨by decide, single⟩

/-! ## A text is split into its lines -/

theorem linesFrom_last (acc : Bytes) {line : Bytes} (single : 0x0A ∉ line) :
    linesFrom acc line = if (acc.reverse ++ line).isEmpty then [] else [acc.reverse ++ line] := by
  induction line generalizing acc with
  | nil =>
      rw [List.append_nil, linesFrom, List.isEmpty_reverse]
  | cons b rest ih =>
      obtain ⟨other, later⟩ := not_or.1 (List.mem_cons.not.1 single)
      rw [linesFrom, if_neg (Ne.symm other), ih _ later, List.reverse_cons, List.append_assoc,
        List.singleton_append]

theorem newline_notMem {cs : List Char} (single : '\n' ∉ cs) : 0x0A ∉ Bytes.ofText (String.ofList cs) :=
  Bytes.notMem_ofText (c := '\n') (by decide) single

theorem ofText_append (cs ds : List Char) :
    Bytes.ofText (String.ofList (cs ++ ds)) = Bytes.ofText (String.ofList cs) ++ Bytes.ofText (String.ofList ds) := by
  rw [Bytes.ofText_ofList, Bytes.ofText_ofList, Bytes.ofText_ofList, List.flatMap_append]

theorem lines_of_last {cs : List Char} (single : '\n' ∉ cs) (some : cs ≠ []) :
    lines (Bytes.ofText (String.ofList cs)) = [Bytes.ofText (String.ofList cs)] := by
  have filled : Bytes.ofText (String.ofList cs) ≠ [] := by
    obtain ⟨c, rest, rfl⟩ := List.exists_cons_of_ne_nil some
    rw [Bytes.ofText_ofList, List.flatMap_cons]
    exact List.append_ne_nil_of_left_ne_nil String.utf8EncodeChar_ne_nil _
  rw [lines, linesFrom_last [] (newline_notMem single), List.reverse_nil, List.nil_append, if_neg]
  rwa [List.isEmpty_iff]

/-- A line goes up to its line feed; a return in front of that belongs to the end. -/
theorem lines_of_line {cs rest : List Char} (single : '\n' ∉ cs) (ending : LineEnd)
    (whole : ending = .feed → cs.getLast? ≠ some '\r') :
    lines (Bytes.ofText (String.ofList (cs ++ ending.chars ++ rest)))
      = Bytes.ofText (String.ofList cs) :: lines (Bytes.ofText (String.ofList rest)) := by
  have line := newline_notMem single
  rw [ofText_append, ofText_append]
  cases ending with
  | feed =>
      have kept : stripReturn (Bytes.ofText (String.ofList cs)) = Bytes.ofText (String.ofList cs) :=
        if_neg (Bytes.getLast?_ofText_ne (c := '\r') (by decide) (whole rfl))
      have feed : Bytes.ofText (String.ofList LineEnd.feed.chars) = [0x0A] := by decide +kernel
      rw [feed, List.append_assoc, List.singleton_append, lines_newline _ line, kept]
  | returnFeed =>
      have stripped : stripReturn (Bytes.ofText (String.ofList cs) ++ [0x0D]) = Bytes.ofText (String.ofList cs) := by
        rw [stripReturn, if_pos List.getLast?_concat, List.dropLast_concat]
      have returned : 0x0A ∉ Bytes.ofText (String.ofList cs) ++ [0x0D] := by
        rw [List.mem_append, not_or]
        exact ⟨line, by decide⟩
      have feed : Bytes.ofText (String.ofList LineEnd.returnFeed.chars) = [0x0D] ++ [0x0A] := by decide +kernel
      rw [feed, ← List.append_assoc, List.append_assoc _ [0x0A], List.singleton_append,
        lines_newline _ returned, stripped]

/-- A text that holds packets is read back line by line: every line is read, and these are the packets. -/
theorem reads_of_layout {packets : List Bytes} {text : List Char} (layout : Layout packets text) :
    Reads (lines (Bytes.ofText (String.ofList text))) packets := by
  induction layout with
  | empty =>
      rw [Bytes.ofText_ofList]
      exact .nil
  | last held some =>
      rw [lines_of_last (single_of_line held) some]
      have reads := Reads.cons (Bytes.text?_ofText _) (packet?_of_line held) .nil
      rwa [List.append_nil] at reads
  | line held ending whole later ih =>
      rw [lines_of_line (single_of_line held) ending whole]
      exact .cons (Bytes.text?_ofText _) (packet?_of_line held) ih

/-! ## There is a text for all packets -/

/-- The plainest text for packets: lowercase digits, a line feed behind each packet. -/
def ofPackets (packets : List Bytes) : List Char :=
  packets.flatMap fun packet => (Hex.encode packet).toList ++ ['\n']

theorem layout_ofPackets {packets : List Bytes} (solid : ∀ packet ∈ packets, packet ≠ []) :
    Layout packets (ofPackets packets) := by
  induction packets with
  | nil => exact .empty
  | cons packet rest ih =>
      have spells := Hex.spells_encode packet
      have held : IsLine (some packet) ((Hex.encode packet).toList ++ []) :=
        .line (.packet (solid packet (.head _)) spells) .none
      rw [List.append_nil] at held
      have whole : (Hex.encode packet).toList.getLast? ≠ some '\r' := by
        intro last
        rcases spells.known '\r' (List.mem_of_getLast? last) with gap | ⟨n, digit⟩
        · revert gap
          decide
        · exact Hex.ne_of_value? digit (by decide) rfl
      exact .line held .feed (fun _ => whole) (ih fun other member => solid other (.tail _ member))

end SensorLog.Capture
