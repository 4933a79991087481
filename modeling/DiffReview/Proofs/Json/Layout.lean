import DiffReview.Proofs.Json.Reading
import DiffReview.Proofs.Json.Writing

/-!
# Layouts

A text is laid out from lexemes, the smallest parts between which there may be spacing.  However the
lexemes of a value are laid out, the text is read as the value.  A part whose text is already known
to be accepted may stand for a value as it is.
-/

namespace DiffReview.Json

open Text

/-- A text that consists of some lexemes, with any spacing before, between and after them. -/
inductive LaidOut : List (List Char) → List Char → Prop
  | spacing {text : List Char} (blank : ∀ character ∈ text, character ∈ spaces) : LaidOut [] text
  | lexeme {before lexeme text : List Char} {others : List (List Char)}
      (blank : ∀ character ∈ before, character ∈ spaces) (laid_out : LaidOut others text) :
      LaidOut (lexeme :: others) (before ++ (lexeme ++ text))

/-- The tokens of some lexemes, each cut by itself. -/
def lexemeTokens (lexemes : List (List Char)) : List Token :=
  lexemes.flatMap fun lexeme => tokens (codePoints lexeme)

/-- A lexeme that is cut in the same way whatever follows. -/
def StandsAlone (lexeme : List Char) : Prop :=
  ∀ rest, tokens (codePoints lexeme ++ rest) = tokens (codePoints lexeme) ++ tokens rest

/-- No token goes on at the start of a text that consists of some lexemes. -/
def BeginAfresh (lexemes : List (List Char)) : Prop :=
  ∀ text, LaidOut lexemes text → ∀ rest, StartsAfresh rest → StartsAfresh (codePoints text ++ rest)

/-- However some lexemes are laid out, their tokens are cut one by one. -/
def AreCut (lexemes : List (List Char)) : Prop :=
  ∀ text, LaidOut lexemes text → ∀ rest, StartsAfresh rest →
    tokens (codePoints text ++ rest) = lexemeTokens lexemes ++ tokens rest

/-- Lexemes that are cut one by one before others that begin afresh. -/
def IsPhrase (lexemes : List (List Char)) : Prop :=
  ∀ others, BeginAfresh others → AreCut others → AreCut (lexemes ++ others)

/-! ## Spacing -/

theorem tokens_spacing_append {spacing : List Char}
    (blank : ∀ character ∈ spacing, character ∈ spaces) (rest : List CodePoint) :
    tokens (codePoints spacing ++ rest) = tokens rest := by
  induction spacing with
  | nil => rfl
  | cons character spacing induction =>
      rw [codePoints_cons, List.cons_append, tokens_cons_of_isSpacing
        (isSpacing_scalar_iff.mpr (blank character (List.mem_cons_self ..)))]
      exact induction fun other mem => blank other (List.mem_cons_of_mem character mem)

theorem startsAfresh_spacing_append {spacing : List Char}
    (blank : ∀ character ∈ spacing, character ∈ spaces) {rest : List CodePoint}
    (afresh : StartsAfresh rest) : StartsAfresh (codePoints spacing ++ rest) := by
  cases spacing with
  | nil => exact afresh
  | cons character spacing =>
      exact .cons (mem_tokenEnds_of_mem_spaces _ (blank character (List.mem_cons_self ..))) _

/-! ## Phrases -/

theorem beginAfresh_nil : BeginAfresh [] := by
  rintro text ⟨blank⟩ rest afresh
  exact startsAfresh_spacing_append blank afresh

theorem beginAfresh_cons {character : Char} (ends : character ∈ tokenEnds) (lexeme : List Char)
    (others : List (List Char)) : BeginAfresh ((character :: lexeme) :: others) := by
  rintro text (_ | ⟨blank, laid_out⟩) rest afresh
  rw [codePoints_append, List.append_assoc]
  exact startsAfresh_spacing_append blank (.cons ends _)

theorem areCut_nil : AreCut [] := by
  rintro text ⟨blank⟩ rest afresh
  exact tokens_spacing_append blank rest

theorem areCut_cons {lexeme : List Char} (alone : StandsAlone lexeme) {others : List (List Char)}
    (cut : AreCut others) : AreCut (lexeme :: others) := by
  rintro text (_ | ⟨blank, laid_out⟩) rest afresh
  rw [codePoints_append, codePoints_append, List.append_assoc, List.append_assoc,
    tokens_spacing_append blank, alone, cut _ laid_out _ afresh, lexemeTokens, lexemeTokens,
    List.flatMap_cons, List.append_assoc]

theorem isPhrase_nil : IsPhrase [] :=
  fun _ _ cut => cut

/-- A lexeme without invalid tokens is a phrase. -/
theorem isPhrase_singleton {lexeme : List Char}
    (valid : Token.invalid ∉ tokens (codePoints lexeme)) : IsPhrase [lexeme] := by
  rintro others begins cut text (_ | ⟨blank, laid_out⟩) rest afresh
  rw [codePoints_append, codePoints_append, List.append_assoc, List.append_assoc,
    tokens_spacing_append blank, tokens_append valid (begins _ laid_out _ afresh),
    cut _ laid_out _ afresh, lexemeTokens, lexemeTokens, List.singleton_append, List.flatMap_cons,
    List.append_assoc]

/-- Two phrases with a lexeme between them that ends the first one are a phrase. -/
theorem IsPhrase.append_cons {left right : List (List Char)} (left_phrase : IsPhrase left)
    (right_phrase : IsPhrase right) {mark : Char} (ends : mark ∈ tokenEnds)
    (alone : StandsAlone [mark]) : IsPhrase (left ++ [mark] :: right) := by
  intro others begins cut
  rw [List.append_assoc]
  exact left_phrase _ (beginAfresh_cons ends _ _) (areCut_cons alone (right_phrase _ begins cut))

/-- A phrase between an opening and a closing lexeme is a phrase. -/
theorem IsPhrase.enclosed {body : List (List Char)} (phrase : IsPhrase body) {opening closing : Char}
    (opens : StandsAlone [opening]) (ends : closing ∈ tokenEnds) (closes : StandsAlone [closing]) :
    IsPhrase ([opening] :: (body ++ [[closing]])) := by
  intro others begins cut
  rw [List.cons_append, List.append_assoc]
  exact areCut_cons opens (phrase _ (beginAfresh_cons ends _ _) (areCut_cons closes cut))

theorem isPhrase_intercalate {phrases : List (List (List Char))}
    (all : ∀ phrase ∈ phrases, IsPhrase phrase) {mark : Char} (ends : mark ∈ tokenEnds)
    (alone : StandsAlone [mark]) : IsPhrase ([[mark]].intercalate phrases) := by
  induction phrases with
  | nil => exact isPhrase_nil
  | cons first others induction =>
      have first_phrase := all first (List.mem_cons_self ..)
      cases others with
      | nil => simpa using first_phrase
      | cons second others =>
          have others_phrase := induction fun phrase mem => all phrase (List.mem_cons_of_mem first mem)
          rw [List.intercalate_cons_cons, List.append_assoc]
          exact first_phrase.append_cons others_phrase ends alone

theorem lexemeTokens_append (left right : List (List Char)) :
    lexemeTokens (left ++ right) = lexemeTokens left ++ lexemeTokens right :=
  List.flatMap_append

theorem lexemeTokens_intercalate (separator : List (List Char))
    (phrases : List (List (List Char))) :
    lexemeTokens (separator.intercalate phrases) =
      (lexemeTokens separator).intercalate (phrases.map lexemeTokens) := by
  induction phrases with
  | nil => rfl
  | cons first others induction =>
      cases others with
      | nil => simp
      | cons second others =>
          rw [List.intercalate_cons_cons, lexemeTokens_append, lexemeTokens_append, induction]
          simp only [List.map_cons, List.intercalate_cons_cons]

theorem standsAlone_mark :
    ∀ mark ∈ ['[', ']', '\x7b', '\x7d', ',', ':'], StandsAlone [mark] := by
  intro mark mem rest
  simp only [List.mem_cons, List.not_mem_nil, or_false] at mem
  obtain rfl | rfl | rfl | rfl | rfl | rfl := mem <;> exact tokens_cons_of_scanToken rfl rfl

/-! ## Spelled values -/

/-- A value together with lexemes that are meant to spell it. -/
structure Spelling where
  value : Json
  lexemes : List (List Char)

/-- A member of an object, its name as one lexeme. -/
structure MemberSpelling where
  name : List CodePoint
  nameText : List Char
  spelling : Spelling

namespace MemberSpelling

/-- A member with its name as it is written. -/
def ofField (name : String) (spelling : Spelling) : MemberSpelling :=
  ⟨codePoints name.toList, writeText (codePoints name.toList), spelling⟩

/-- The lexemes of a member. -/
def lexemes (member : MemberSpelling) : List (List Char) :=
  member.nameText :: [':'] :: member.spelling.lexemes

/-- The name and the value of a member. -/
def entry (member : MemberSpelling) : List CodePoint × Json :=
  (member.name, member.spelling.value)

end MemberSpelling

namespace Spelling

/-- A text that stands for a value as it is. -/
def ofChunk (value : Json) (text : List Char) : Spelling :=
  ⟨value, [text]⟩

/-- A string as it is written. -/
def ofString (text : String) : Spelling :=
  ⟨.string text, [writeText (codePoints text.toList)]⟩

/-- An integer as it is written. -/
def ofInteger (number : Int) : Spelling :=
  ⟨.integer number, [write (.integer number)]⟩

/-- An array of spelled items. -/
def array (items : List Spelling) : Spelling where
  value := .array (items.map value)
  lexemes := ['['] :: ([[',']].intercalate (items.map lexemes) ++ [[']']])

/-- An object of spelled members. -/
def object (members : List MemberSpelling) : Spelling where
  value := .object (members.map MemberSpelling.entry)
  lexemes := ['\x7b'] :: ([[',']].intercalate (members.map MemberSpelling.lexemes) ++ [['\x7d']])

/-- The lexemes are cut one by one and then read as the value, wherever there is room for it. -/
structure IsSound (nesting : Nat) (spelling : Spelling) : Prop where
  phrase : IsPhrase spelling.lexemes
  spells : Spells nesting (lexemeTokens spelling.lexemes) spelling.value

end Spelling

/-- The name is one token, and the value is soundly spelled. -/
structure MemberSpelling.IsSound (nesting : Nat) (member : MemberSpelling) : Prop where
  name : tokens (codePoints member.nameText) = [.text member.name]
  value : member.spelling.IsSound nesting

namespace Spelling

variable {nesting : Nat}

/-- A text that is accepted by itself is sound in any place. -/
theorem isSound_ofChunk {value : Json} {text : List Char}
    (accepted : read nesting (codePoints text) = .ok value) :
    (ofChunk value text).IsSound nesting where
  phrase := isPhrase_singleton (not_mem_invalid_of_read accepted)
  spells := by
    rw [lexemeTokens, ofChunk, List.flatMap_singleton]
    exact spells_of_read accepted

theorem isSound_of_tokens {spelling : Spelling} {lexeme : List Char} {token : Token}
    (single : spelling.lexemes = [lexeme]) (cut : tokens (codePoints lexeme) = [token])
    (valid : token ≠ .invalid) (spells : Spells nesting [token] spelling.value) :
    spelling.IsSound nesting where
  phrase := by
    rw [single]
    exact isPhrase_singleton (by simpa [cut] using valid.symm)
  spells := by
    rw [single, lexemeTokens, List.flatMap_singleton, cut]
    exact spells

theorem isSound_ofString (text : String) : (ofString text).IsSound nesting := by
  have cut := tokens_writeText text.toList []
  rw [List.append_nil] at cut
  exact isSound_of_tokens rfl cut nofun (spells_text _)

theorem isSound_ofInteger {number : Int} (positive : 0 ≤ number)
    (small : number < Nat.pow 10 maxDigits) : (ofInteger number).IsSound nesting := by
  obtain ⟨size, rfl⟩ := Int.eq_ofNat_of_zero_le positive
  have written : write (.integer size) = Nat.toDigits 10 size := Nat.toList_repr
  have digits_eq : readDigits (Nat.toDigits 10 size) = .ok size :=
    readDigits_toDigits (Int.ofNat_lt.mp small)
  have cut := tokens_toDigits size .nil
  rw [List.append_nil, ← written] at cut
  rw [← written] at digits_eq
  exact isSound_of_tokens rfl cut nofun (spells_integer digits_eq)

theorem isSound_array {items : List Spelling} (sound : ∀ item ∈ items, item.IsSound nesting) :
    (array items).IsSound nesting where
  phrase := by
    refine (isPhrase_intercalate ?_ (by decide) (standsAlone_mark _ (by decide))).enclosed
      (standsAlone_mark _ (by decide)) (by decide) (standsAlone_mark _ (by decide))
    intro phrase mem
    obtain ⟨item, item_mem, rfl⟩ := List.mem_map.mp mem
    exact (sound item item_mem).phrase
  spells := by
    have tokens_eq : lexemeTokens (array items).lexemes =
        arrayTokens (items.map fun item => lexemeTokens item.lexemes) := by
      rw [array, ← List.singleton_append, lexemeTokens_append, lexemeTokens_append,
        lexemeTokens_intercalate, List.map_map]
      rfl
    rw [tokens_eq]
    exact spells_array fun item mem => (sound item mem).spells

theorem isSound_object {members : List MemberSpelling}
    (sound : ∀ member ∈ members, member.IsSound nesting) : (object members).IsSound nesting where
  phrase := by
    refine (isPhrase_intercalate ?_ (by decide) (standsAlone_mark _ (by decide))).enclosed
      (standsAlone_mark _ (by decide)) (by decide) (standsAlone_mark _ (by decide))
    intro phrase mem
    obtain ⟨member, member_mem, rfl⟩ := List.mem_map.mp mem
    have name_phrase : IsPhrase [member.nameText] :=
      isPhrase_singleton (by simp [(sound member member_mem).name])
    exact name_phrase.append_cons (sound member member_mem).value.phrase (by decide)
      (standsAlone_mark _ (by decide))
  spells := by
    have member_tokens : ∀ member ∈ members, lexemeTokens member.lexemes =
        memberTokens member.name (lexemeTokens member.spelling.lexemes) := by
      intro member mem
      rw [MemberSpelling.lexemes, lexemeTokens, List.flatMap_cons, (sound member mem).name]
      rfl
    have tokens_eq : lexemeTokens (object members).lexemes = objectTokens (members.map fun member =>
        memberTokens member.name (lexemeTokens member.spelling.lexemes)) := by
      rw [object, ← List.singleton_append, lexemeTokens_append, lexemeTokens_append,
        lexemeTokens_intercalate, List.map_map, ← List.map_congr_left member_tokens]
      rfl
    rw [tokens_eq]
    exact spells_object fun member mem => (sound member mem).value.spells

end Spelling

/-! ## Room -/

/-- A spelling that is sound and not nested too deeply for a place inside some arrays and objects. -/
structure Spelling.Fits (nesting enclosing : Nat) (spelling : Spelling) : Prop where
  sound : spelling.IsSound nesting
  room : spelling.value.depth + enclosing ≤ nesting

/-- A member whose name is a string and whose value fits. -/
structure MemberSpelling.Fits (nesting enclosing : Nat) (member : MemberSpelling) : Prop where
  name : tokens (codePoints member.nameText) = [.text member.name]
  value : member.spelling.Fits nesting enclosing

theorem MemberSpelling.fits_ofField (name : String) {nesting enclosing : Nat} {spelling : Spelling}
    (fits : spelling.Fits nesting enclosing) : (ofField name spelling).Fits nesting enclosing where
  name := by
    have cut := tokens_writeText name.toList []
    rwa [List.append_nil] at cut
  value := fits

namespace Spelling

variable {nesting : Nat}

theorem fits_ofString {enclosing : Nat} (room : enclosing ≤ nesting) (text : String) :
    (ofString text).Fits nesting enclosing where
  sound := isSound_ofString text
  room := by simpa [ofString, Json.string, depth] using room

theorem fits_ofInteger {enclosing : Nat} (room : enclosing ≤ nesting) {number : Int}
    (positive : 0 ≤ number) (small : number < Nat.pow 10 maxDigits) :
    (ofInteger number).Fits nesting enclosing where
  sound := isSound_ofInteger positive small
  room := by simpa [ofInteger, depth] using room

theorem fits_array {enclosing : Nat} (room : enclosing < nesting) {items : List Spelling}
    (fit : ∀ item ∈ items, item.Fits nesting (enclosing + 1)) :
    (array items).Fits nesting enclosing where
  sound := isSound_array fun item mem => (fit item mem).sound
  room := by
    have shallow : depthOfItems (items.map value) ≤ nesting - (enclosing + 1) := by
      refine depthOfItems_le fun item mem => ?_
      obtain ⟨spelling, spelling_mem, rfl⟩ := List.mem_map.mp mem
      exact Nat.le_sub_of_add_le (fit spelling spelling_mem).room
    rw [array, depth]
    omega

theorem fits_object {enclosing : Nat} (room : enclosing < nesting)
    {members : List MemberSpelling}
    (fit : ∀ member ∈ members, member.Fits nesting (enclosing + 1)) :
    (object members).Fits nesting enclosing where
  sound := isSound_object fun member mem => ⟨(fit member mem).name, (fit member mem).value.sound⟩
  room := by
    have shallow :
        depthOfMembers (members.map MemberSpelling.entry) ≤ nesting - (enclosing + 1) := by
      refine depthOfMembers_le fun entry mem => ?_
      obtain ⟨member, member_mem, rfl⟩ := List.mem_map.mp mem
      exact Nat.le_sub_of_add_le (fit member member_mem).value.room
    rw [object, depth]
    omega

/-- However the lexemes of a value are laid out, the text is read as the value. -/
theorem Fits.read_eq {spelling : Spelling} (fits : spelling.Fits nesting 0) {text : List Char}
    (laid_out : LaidOut spelling.lexemes text) :
    read nesting (codePoints text) = .ok spelling.value := by
  have cut := fits.sound.phrase [] beginAfresh_nil areCut_nil text
  rw [List.append_nil] at cut
  have tokens_eq := cut laid_out [] .nil
  rw [List.append_nil, tokens_nil, List.append_nil] at tokens_eq
  refine read_of_spells ?_ fits.room
  rw [tokens_eq]
  exact fits.sound.spells

end Spelling

/-! ## Written values -/

namespace LaidOut

theorem spaced {lexemes : List (List Char)} {text : List Char} (laid_out : LaidOut lexemes text)
    {spacing : List Char} (blank : ∀ character ∈ spacing, character ∈ spaces) :
    LaidOut lexemes (spacing ++ text) := by
  cases laid_out with
  | spacing text_blank => exact .spacing (List.forall_mem_append.mpr ⟨blank, text_blank⟩)
  | lexeme before_blank laid_out =>
      rw [← List.append_assoc]
      exact .lexeme (List.forall_mem_append.mpr ⟨blank, before_blank⟩) laid_out

theorem append {left right : List (List Char)} {text others : List Char}
    (left_out : LaidOut left text) (right_out : LaidOut right others) :
    LaidOut (left ++ right) (text ++ others) := by
  induction left_out with
  | spacing blank => exact right_out.spaced blank
  | lexeme blank _ induction =>
      rw [List.append_assoc, List.append_assoc]
      exact .lexeme blank induction

/-- Lexemes may stand without any spacing. -/
theorem flatten (lexemes : List (List Char)) : LaidOut lexemes lexemes.flatten := by
  induction lexemes with
  | nil => exact .spacing nofun
  | cons lexeme lexemes induction =>
      have no_spacing : ∀ character ∈ ([] : List Char), character ∈ spaces := nofun
      exact .lexeme no_spacing induction

theorem single (lexeme : List Char) {spacing : List Char}
    (blank : ∀ character ∈ spacing, character ∈ spaces) :
    LaidOut [lexeme] (lexeme ++ spacing) := by
  have no_spacing : ∀ character ∈ ([] : List Char), character ∈ spaces := nofun
  exact .lexeme no_spacing (.spacing blank)

/-- Parts in a row, each followed by a comma and a space. -/
theorem intercalate {α : Type} {lexemes : α → List (List Char)} {text : α → List Char}
    {parts : List α} (laid_out : ∀ part ∈ parts, LaidOut (lexemes part) (text part)) :
    LaidOut ([[',']].intercalate (parts.map lexemes)) ([',', ' '].intercalate (parts.map text)) := by
  induction parts with
  | nil => exact .spacing nofun
  | cons first others induction =>
      have first_out := laid_out first (List.mem_cons_self ..)
      cases others with
      | nil => simpa using first_out
      | cons second others =>
          have others_out := induction fun part mem => laid_out part (List.mem_cons_of_mem first mem)
          have comma_out : LaidOut [[',']] [',', ' '] := single [','] (by simp [spaces])
          simp only [List.map_cons, List.intercalate_cons_cons]
          exact (first_out.append comma_out).append others_out

end LaidOut

theorem write_text (points : List CodePoint) : write (.text points) = writeText points := rfl

theorem write_array (items : List Json) :
    write (.array items) = ['['] ++ (writeItems items ++ [']']) := rfl

theorem write_object (members : List (List CodePoint × Json)) :
    write (.object members) = ['\x7b'] ++ (writeMembers members ++ ['\x7d']) := rfl

theorem writeItems_eq_intercalate (items : List Json) :
    writeItems items = [',', ' '].intercalate (items.map write) := by
  induction items with
  | nil => rfl
  | cons first others induction =>
      cases others with
      | nil => simp [writeItems]
      | cons second others =>
          rw [writeItems, induction]
          · simp only [List.map_cons, List.intercalate_cons_cons]
          · exact nofun

/-- The written form of a member. -/
def writeMember (member : List CodePoint × Json) : List Char :=
  writeText member.1 ++ [':', ' '] ++ write member.2

theorem writeMembers_eq_intercalate (members : List (List CodePoint × Json)) :
    writeMembers members = [',', ' '].intercalate (members.map writeMember) := by
  induction members with
  | nil => rfl
  | cons first others induction =>
      obtain ⟨name, value⟩ := first
      cases others with
      | nil => simp [writeMembers, writeMember]
      | cons second others =>
          rw [writeMembers, induction]
          · simp only [List.map_cons, List.intercalate_cons_cons, writeMember]
          · exact nofun

namespace Spelling

/-- The lexemes of a value that is written as it is spelled. -/
def IsWritten (spelling : Spelling) : Prop :=
  LaidOut spelling.lexemes (write spelling.value)

theorem laidOut_lexeme (lexeme : List Char) : LaidOut [lexeme] lexeme := by
  have laid_out := LaidOut.single lexeme (by simp : ∀ character ∈ [], character ∈ spaces)
  rwa [List.append_nil] at laid_out

theorem isWritten_ofString (text : String) : (ofString text).IsWritten := by
  rw [IsWritten, ofString, Json.string, write_text]
  exact laidOut_lexeme _

theorem isWritten_ofInteger (number : Int) : (ofInteger number).IsWritten :=
  laidOut_lexeme _

theorem isWritten_array {items : List Spelling} (written : ∀ item ∈ items, item.IsWritten) :
    (array items).IsWritten := by
  have body := LaidOut.intercalate written
  have text_eq : write (array items).value =
      ['['] ++ ([',', ' '].intercalate (items.map fun item => write item.value) ++ [']']) := by
    rw [array, write_array, writeItems_eq_intercalate, List.map_map]
    rfl
  rw [IsWritten, text_eq]
  exact (laidOut_lexeme ['[']).append (body.append (laidOut_lexeme [']']))

theorem isWritten_object {members : List MemberSpelling}
    (written : ∀ member ∈ members, member.nameText = writeText member.name ∧
      member.spelling.IsWritten) : (object members).IsWritten := by
  have member_out : ∀ member ∈ members, LaidOut member.lexemes (writeMember member.entry) := by
    intro member mem
    obtain ⟨name_written, value_written⟩ := written member mem
    have colon_out : LaidOut [[':']] [':', ' '] := LaidOut.single [':'] (by simp [spaces])
    rw [MemberSpelling.lexemes, name_written]
    exact ((laidOut_lexeme _).append colon_out).append value_written
  have body := LaidOut.intercalate member_out
  have text_eq : write (object members).value =
      ['\x7b'] ++ ([',', ' '].intercalate (members.map fun member => writeMember member.entry) ++
        ['\x7d']) := by
    rw [object, write_object, writeMembers_eq_intercalate, List.map_map]
    rfl
  rw [IsWritten, text_eq]
  exact (laidOut_lexeme ['\x7b']).append (body.append (laidOut_lexeme ['\x7d']))

end Spelling

end DiffReview.Json
