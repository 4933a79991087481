import DiffReview.Proofs.Pattern.Boundary
import DiffReview.Rule

/-!
# What the rules look for

Each rule in force by default looks for a trace: a piece of a certain form anywhere in a line, for
most rules where a word can start or end.  A trace that stands in a text stands in every longer one,
unless what is put before or behind it makes a longer word of its first or last one.
-/

namespace DiffReview

open Text (StartsField EndsField equalsFolded isBlank isBlankText isWordBreak isWordCharacter)

/-- What a rule looks for. -/
structure Trace where
  /-- The form of the piece that is looked for. -/
  IsForm : List Char → Prop
  /-- Whether no word may run into the piece. -/
  opensWord : Bool
  /-- Whether the piece may run into no word. -/
  closesWord : Bool

namespace Trace

variable {trace : Trace} {body : List Pattern} {before : Option Char} {text piece rest : List Char}

/-- A piece of the form that is looked for stands in the text, apart from words where it has to. -/
def StandsIn (trace : Trace) (text : List Char) : Prop :=
  ∃ front piece back, text = front ++ (piece ++ back) ∧ trace.IsForm piece ∧
    (trace.opensWord = true → StartsField isWordBreak front) ∧
      (trace.closesWord = true → EndsField isWordBreak back)

/-- What stands in a text also stands in it when something is put before and behind it that leaves
its first and its last word as they are, where that matters. -/
theorem StandsIn.surrounded (stands : trace.StandsIn text) {before after : List Char}
    (ends_before : trace.opensWord = true → StartsField isWordBreak before)
    (starts_after : trace.closesWord = true → EndsField isWordBreak after) :
    trace.StandsIn (before ++ (text ++ after)) := by
  obtain ⟨front, piece, back, rfl, form, starts, ends⟩ := stands
  exact ⟨before ++ front, piece, back ++ after, by simp, form,
    fun opens => (ends_before opens).append (starts opens),
    fun closes => (ends closes).append (starts_after closes)⟩

/-- The pattern for a trace, given the patterns for its pieces. -/
def pattern (trace : Trace) (body : List Pattern) : Pattern :=
  .sequence ((bif trace.opensWord then [.boundary] else []) ++
    (body ++ bif trace.closesWord then [.boundary] else []))

/-- The patterns read the pieces of the trace, and these start and end with characters of words
where words have to start or end. -/
structure IsReadBy (trace : Trace) (body : List Pattern) : Prop where
  reads_iff : ∀ {before piece rest}, (Pattern.sequence body).Reads before piece rest ↔
    trace.IsForm piece
  starts : trace.opensWord = true → ∀ piece, trace.IsForm piece →
    piece.head?.any isWordCharacter = true
  ends : trace.closesWord = true → ∀ piece, trace.IsForm piece →
    piece.getLast?.any isWordCharacter = true

theorem reads_pattern_iff :
    (trace.pattern body).Reads before piece rest ↔
      (Pattern.sequence body).Reads before piece rest ∧
        (trace.opensWord = true → Cursor.atBoundary ⟨before, piece ++ rest⟩ = true) ∧
        (trace.closesWord = true → Cursor.atBoundary ⟨piece.getLast?.or before, rest⟩ = true) := by
  have closed_iff : (Pattern.sequence
        (body ++ bif trace.closesWord then [.boundary] else [])).Reads before piece rest ↔
      (Pattern.sequence body).Reads before piece rest ∧
        (trace.closesWord = true → Cursor.atBoundary ⟨piece.getLast?.or before, rest⟩ = true) := by
    cases trace.closesWord with
    | false => simp
    | true => simp [Pattern.reads_sequence_concat_boundary]
  rw [pattern]
  cases trace.opensWord with
  | false => simp [closed_iff]
  | true =>
      rw [cond_true, List.singleton_append, Pattern.reads_sequence_boundary_cons, closed_iff]
      simp [and_left_comm]

/-- The pattern for a trace occurs in the texts in which the trace stands. -/
theorem IsReadBy.occursIn_iff (read : trace.IsReadBy body) :
    (trace.pattern body).occursIn text = true ↔ trace.StandsIn text := by
  simp only [Pattern.occursIn_iff_reads, reads_pattern_iff, read.reads_iff, StandsIn]
  refine exists_congr fun front => exists_congr fun piece => exists_congr fun rest =>
    and_congr_right fun _ => and_congr_right fun form => and_congr ?_ ?_
  · refine forall_congr' fun opens => ?_
    obtain ⟨first, first_eq, in_word⟩ := (Option.any_eq_true _ _).mp (read.starts opens piece form)
    obtain ⟨others, rfl⟩ := List.head?_eq_some_iff.mp first_eq
    exact Cursor.atBoundary_cons_iff in_word
  · refine forall_congr' fun closes => ?_
    obtain ⟨last, last_eq, in_word⟩ := (Option.any_eq_true _ _).mp (read.ends closes piece form)
    rw [last_eq, Option.some_or]
    exact Cursor.atBoundary_some_iff in_word

/-! ## The traces of the default rules -/

/-- A call of a console logging function, up to its parenthesis. -/
def consoleCall : Trace where
  IsForm piece := ∃ method ∈ ["log", "debug", "info"], ∃ blanks, isBlankText blanks = true ∧
    piece = "console.".toList ++ (method.toList ++ (blanks ++ ['(']))
  opensWord := true
  closesWord := false

/-- A word that marks work left to do. -/
def unresolvedWord : Trace where
  IsForm piece := ∃ word ∈ ["TODO", "FIXME", "HACK", "XXX"], piece = word.toList
  opensWord := true
  closesWord := true

/-- The names of what is to be kept secret. -/
def secretNames : List String :=
  ["password", "passwd", "api_key", "apikey", "secret", "token", "auth"]

/-- The name of a secret, disregarding case, that is given a quoted text, up to the fourth character
of the text. -/
def quotedSecret : Trace where
  IsForm piece := ∃ name blanks sign moreBlanks quote value,
    (∃ secret ∈ secretNames, equalsFolded secret.toList name = true) ∧
      isBlankText blanks = true ∧ sign ∈ [':', '='] ∧ isBlankText moreBlanks = true ∧
        quote ∈ ['\'', '"'] ∧ value.length = 4 ∧ (∀ character ∈ value, character ∉ ['\'', '"']) ∧
          piece = name ++ (blanks ++ sign :: (moreBlanks ++ quote :: value))
  opensWord := false
  closesWord := false

/-- The word for a stop in the debugger. -/
def debuggerWord : Trace where
  IsForm piece := piece = "debugger".toList
  opensWord := true
  closesWord := true

/-- A call that opens an alert box, up to its parenthesis. -/
def alertCall : Trace where
  IsForm piece := ∃ blanks, isBlankText blanks = true ∧ piece = "alert".toList ++ (blanks ++ ['('])
  opensWord := true
  closesWord := false

theorem isReadBy_consoleCall :
    consoleCall.IsReadBy [.literal "console.",
      .choice (.literal "log") (["debug", "info"].map .literal), .run isBlank, .literal "("] where
  reads_iff := by
    intro before piece rest
    rw [Pattern.reads_sequence_literal_cons]
    simp only [Pattern.reads_sequence_cons, Pattern.reads_choice_map, Pattern.reads_literal,
      Pattern.reads_run, Pattern.reads_sequence_nil, consoleCall]
    constructor
    · rintro ⟨_, rfl, _, _, rfl, ⟨method, method_mem, rfl⟩, blanks, _, rfl, blank, _, _, rfl, rfl,
        rfl⟩
      exact ⟨method, method_mem, blanks, blank, rfl⟩
    · rintro ⟨method, method_mem, blanks, blank, rfl⟩
      exact ⟨_, rfl, _, _, rfl, ⟨method, method_mem, rfl⟩, blanks, _, rfl, blank, _, _, rfl, rfl,
        rfl⟩
  starts := by
    rintro - _ ⟨method, -, blanks, -, rfl⟩
    rfl
  ends := nofun

theorem isReadBy_unresolvedWord :
    unresolvedWord.IsReadBy
      [.choice (.literal "TODO") (["FIXME", "HACK", "XXX"].map .literal)] where
  reads_iff := by
    intro before piece rest
    simp only [Pattern.reads_sequence_singleton, Pattern.reads_choice_map, Pattern.reads_literal,
      unresolvedWord]
  starts := by
    rintro - _ ⟨word, word_mem, rfl⟩
    revert word
    decide
  ends := by
    rintro - _ ⟨word, word_mem, rfl⟩
    revert word
    decide

theorem isQuote_eq_true_iff {character : Char} :
    Rule.isQuote character = true ↔ character ∈ ['\'', '"'] := by
  simp [Rule.isQuote]

/-- Four characters that are no quotes. -/
theorem reads_unquoted :
    (Pattern.sequence [.one (!Rule.isQuote ·), .one (!Rule.isQuote ·), .one (!Rule.isQuote ·),
        .one (!Rule.isQuote ·)]).Reads before piece rest ↔
      piece.length = 4 ∧ ∀ character ∈ piece, character ∉ ['\'', '"'] := by
  refine (@Pattern.reads_sequence_replicate_one before piece rest 4 (!Rule.isQuote ·)).trans
    (and_congr_right fun _ => ?_)
  simp only [List.all_eq_true, Bool.not_eq_true', ← Bool.not_eq_true, isQuote_eq_true_iff]

theorem isReadBy_quotedSecret :
    quotedSecret.IsReadBy [.choice (.folded "password")
        (["passwd", "api_key", "apikey", "secret", "token", "auth"].map .folded), .run isBlank,
      .one fun character => character == ':' || character == '=', .run isBlank,
      .one Rule.isQuote, .one (!Rule.isQuote ·), .one (!Rule.isQuote ·), .one (!Rule.isQuote ·),
      .one (!Rule.isQuote ·)] where
  reads_iff := by
    intro before piece rest
    rw [Pattern.reads_sequence_cons]
    simp only [Pattern.reads_choice_map, Pattern.reads_folded, Pattern.reads_sequence_run_cons,
      Pattern.reads_sequence_one_cons, ↓reads_unquoted, isQuote_eq_true_iff, quotedSecret]
    constructor
    · rintro ⟨name, _, rfl, secret, blanks, _, rfl, blank, sign, _, rfl, is_sign, moreBlanks, _,
        rfl, more_blank, quote, value, rfl, is_quote, value_length, unquoted⟩
      exact ⟨name, blanks, sign, moreBlanks, quote, value, secret, blank, by simpa using is_sign,
        more_blank, is_quote, value_length, unquoted, rfl⟩
    · rintro ⟨name, blanks, sign, moreBlanks, quote, value, secret, blank, is_sign, more_blank,
        is_quote, value_length, unquoted, rfl⟩
      exact ⟨name, _, rfl, secret, blanks, _, rfl, blank, sign, _, rfl, by simpa using is_sign,
        moreBlanks, _, rfl, more_blank, quote, value, rfl, is_quote, value_length, unquoted⟩
  starts := nofun
  ends := nofun

theorem isReadBy_debuggerWord : debuggerWord.IsReadBy [.literal "debugger"] where
  reads_iff := Pattern.reads_sequence_singleton.trans Pattern.reads_literal
  starts := by
    rintro - _ rfl
    rfl
  ends := by
    rintro - _ rfl
    decide

theorem isReadBy_alertCall :
    alertCall.IsReadBy [.literal "alert", .run isBlank, .literal "("] where
  reads_iff := by
    intro before piece rest
    simp only [Pattern.reads_sequence_literal_cons, Pattern.reads_sequence_run_cons,
      Pattern.reads_sequence_nil, alertCall]
    constructor
    · rintro ⟨_, rfl, blanks, _, rfl, blank, _, rfl, rfl⟩
      exact ⟨blanks, blank, rfl⟩
    · rintro ⟨blanks, blank, rfl⟩
      exact ⟨_, rfl, blanks, _, rfl, blank, _, rfl, rfl⟩
  starts := by
    rintro - _ ⟨blanks, -, rfl⟩
    rfl
  ends := nofun

end Trace

namespace Rule

variable {rule : Rule} {trace : Trace} {before content after : String}

/-- The rules in force by default, with what each looks for. -/
def defaultTraces : List (Rule × Trace) :=
  [(consoleLog, .consoleCall), (unresolvedNote, .unresolvedWord), (hardcodedSecret, .quotedSecret),
    (debuggerStatement, .debuggerWord), (alertCall, .alertCall)]

theorem map_fst_defaultTraces : defaultTraces.map Prod.fst = defaults :=
  rfl

theorem exists_isReadBy (looks : (rule, trace) ∈ defaultTraces) :
    ∃ body, trace.IsReadBy body ∧ rule.occursIn = (trace.pattern body).occursIn := by
  simp only [defaultTraces, List.mem_cons, Prod.mk.injEq, List.not_mem_nil, or_false] at looks
  rcases looks with ⟨rfl, rfl⟩ | ⟨rfl, rfl⟩ | ⟨rfl, rfl⟩ | ⟨rfl, rfl⟩ | ⟨rfl, rfl⟩
  · exact ⟨_, Trace.isReadBy_consoleCall, rfl⟩
  · exact ⟨_, Trace.isReadBy_unresolvedWord, rfl⟩
  · exact ⟨_, Trace.isReadBy_quotedSecret, rfl⟩
  · exact ⟨_, Trace.isReadBy_debuggerWord, rfl⟩
  · exact ⟨_, Trace.isReadBy_alertCall, rfl⟩

/-- A default rule fires on the lines in which what it looks for stands. -/
theorem fires_iff_standsIn (looks : (rule, trace) ∈ defaultTraces) :
    rule.fires content = true ↔ trace.StandsIn content.toList := by
  obtain ⟨body, read, occursIn_eq⟩ := exists_isReadBy looks
  rw [fires, occursIn_eq]
  exact read.occursIn_iff

theorem fires_surrounded (looks : (rule, trace) ∈ defaultTraces) (fires : rule.fires content = true)
    (ends_before : trace.opensWord = true → StartsField isWordBreak before.toList)
    (starts_after : trace.closesWord = true → EndsField isWordBreak after.toList) :
    rule.fires (before ++ content ++ after) = true := by
  rw [fires_iff_standsIn looks] at fires ⊢
  rw [String.append_assoc, String.toList_append, String.toList_append]
  exact fires.surrounded ends_before starts_after

end Rule

end DiffReview
