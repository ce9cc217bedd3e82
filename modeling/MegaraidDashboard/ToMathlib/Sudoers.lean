import Mathlib.Data.List.Basic
import Mathlib.Data.List.DropRight

/-! # Files of sudoers with aliases of exact commands

A backslash at the end of a line joins the next one to it. A line names the commands of an alias, between commas, or
lets a user run the commands of an alias as root without a password. Commands without metacharacters stand for
themselves.
-/

namespace Sudoers

/-- The text without the ends of lines that a backslash hides. -/
def joinContinued : List Char → List Char
  | '\\' :: '\n' :: rest => joinContinued rest
  | c :: rest => c :: joinContinued rest
  | [] => []

/-- The text without the blanks around it. -/
def trim (text : List Char) : List Char := (text.dropWhile (· == ' ')).rdropWhile (· == ' ')

inductive Line where
  | alias_ (name : List Char) (commands : List (List Char))
  | grant (user name : List Char)
deriving DecidableEq, Repr

/-- `Cmnd_Alias NAME = command, command` or `user ALL=(root) NOPASSWD: NAME`. -/
def readLine (line : List Char) : Option Line :=
  let right := (line.dropWhile (· != '=')).drop 1
  match ((line.takeWhile (· != '=')).splitOn ' ').filter (· != []) with
  | [first, second] =>
    if first = "Cmnd_Alias".toList then some (.alias_ second ((right.splitOn ',').map trim))
    else if second = "ALL".toList ∧ "(root) NOPASSWD: ".toList <+: right then
      some (.grant first (right.drop "(root) NOPASSWD: ".toList.length))
    else none
  | _ => none

def read (text : List Char) : List Line := ((joinContinued text).splitOn '\n').filterMap readLine

/-- Some line lets the user run the commands of an alias, and the command is one of them. -/
def Grants (text user command : String) : Prop :=
  ∃ name commands, .grant user.toList name ∈ read text.toList ∧ .alias_ name commands ∈ read text.toList ∧
    command.toList ∈ commands

/-- A file with one alias and one user. -/
def render (name user : List Char) (commands : List (List Char)) : List Char :=
  "Cmnd_Alias ".toList ++ name ++ " = ".toList ++ ", \\\n  ".toList.intercalate commands ++ "\n".toList ++ user ++
    " ALL=(root) NOPASSWD: ".toList ++ name ++ "\n".toList

/-- A word of a name. -/
def Plain (text : List Char) : Prop := text ≠ [] ∧ ∀ c ∈ text, c ∉ [' ', ',', '=', '\\', '\n']

/-- A command that needs no quoting. -/
structure PlainCommand (command : List Char) : Prop where
  trimmed : trim command = command
  plain : ∀ c ∈ command, c ∉ [',', '\\', '\n']

/-! ## Joined lines -/

theorem joinContinued_append {front : List Char} (plain : '\\' ∉ front) (rest : List Char) :
    joinContinued (front ++ rest) = front ++ joinContinued rest := by
  induction front with
  | nil => rfl
  | cons first front ih =>
    have other : first ≠ '\\' := fun same => plain (same ▸ List.mem_cons_self)
    rw [List.cons_append, joinContinued, ih fun inside => plain (List.mem_cons_of_mem _ inside), List.cons_append]
    rintro _ rfl
    exact absurd rfl other

/-- The commands of an alias, each but the first behind what is left of a continued line. -/
theorem joinContinued_intercalate {commands : List (List Char)} (plain : ∀ command ∈ commands, PlainCommand command)
    (rest : List Char) : joinContinued (", \\\n  ".toList.intercalate commands ++ rest) =
      ",   ".toList.intercalate commands ++ joinContinued rest := by
  induction commands with
  | nil => rfl
  | cons first commands ih =>
    have own : '\\' ∉ first := fun inside => (plain first List.mem_cons_self).plain _ inside (by decide)
    cases commands with
    | nil => rw [List.intercalate_singleton, List.intercalate_singleton, joinContinued_append own]
    | cons second commands =>
      have later := ih fun command member => plain command (List.mem_cons_of_mem _ member)
      rw [List.intercalate_cons_cons, List.intercalate_cons_cons, List.append_assoc, List.append_assoc,
        joinContinued_append own, List.append_assoc, List.append_assoc]
      have continued (tail : List Char) : joinContinued (", \\\n  ".toList ++ tail) = ",   ".toList ++ joinContinued tail := rfl
      rw [continued, later]

/-! ## Lines -/

theorem trim_append {blanks text : List Char} (blank : ∀ c ∈ blanks, c = ' ') : trim (blanks ++ text) = trim text := by
  rw [trim, trim, List.dropWhile_append_of_pos]
  intro c inside
  exact beq_iff_eq.mpr (blank c inside)

theorem splitOn_commands {commands : List (List Char)} (plain : ∀ command ∈ commands, PlainCommand command)
    (some_ : commands ≠ []) {blanks : List Char} (blank : ∀ c ∈ blanks, c = ' ') :
    ((blanks ++ ",   ".toList.intercalate commands).splitOn ',').map trim = commands := by
  induction commands generalizing blanks with
  | nil => exact absurd rfl some_
  | cons first commands ih =>
    have own := plain first List.mem_cons_self
    have whole : ',' ∉ blanks ++ first := by
      rw [List.mem_append]
      rintro (inside | inside)
      · exact absurd (blank _ inside) (by decide)
      · exact own.plain _ inside (by decide)
    cases commands with
    | nil =>
      rw [List.intercalate_singleton, List.splitOn_eq_singleton whole, List.map_singleton, trim_append blank, own.trimmed]
    | cons second commands =>
      have three : ∀ c ∈ [' ', ' ', ' '], c = ' ' := by simp
      have later := ih (fun command member => plain command (List.mem_cons_of_mem _ member)) (List.cons_ne_nil _ _) three
      have cut : blanks ++ ",   ".toList.intercalate (first :: second :: commands) =
          (blanks ++ first) ++ ',' :: ([' ', ' ', ' '] ++ ",   ".toList.intercalate (second :: commands)) := by
        rw [List.intercalate_cons_cons, List.append_assoc, List.append_assoc]
        rfl
      rw [cut, List.splitOn_append_cons_self, List.splitOn_eq_singleton whole, List.singleton_append, List.map_cons,
        later, trim_append blank, own.trimmed]

theorem readLine_alias {name : List Char} (word : Plain name) {commands : List (List Char)}
    (plain : ∀ command ∈ commands, PlainCommand command) (some_ : commands ≠ []) :
    readLine ("Cmnd_Alias ".toList ++ name ++ " = ".toList ++ ",   ".toList.intercalate commands) =
      some (.alias_ name commands) := by
  have left : ∀ c ∈ "Cmnd_Alias ".toList ++ name ++ [' '], (c != '=') = true := by
    intro c inside
    rw [bne_iff_ne]
    rintro rfl
    simp only [List.mem_append] at inside
    rcases inside with (inside | inside) | inside
    · exact absurd inside (by decide)
    · exact word.2 _ inside (by decide)
    · exact absurd inside (by decide)
  have cut : "Cmnd_Alias ".toList ++ name ++ " = ".toList ++ ",   ".toList.intercalate commands =
      ("Cmnd_Alias ".toList ++ name ++ [' ']) ++ '=' :: ([' '] ++ ",   ".toList.intercalate commands) := by
    simp only [List.append_assoc]
    rfl
  have words : ("Cmnd_Alias ".toList ++ name ++ [' ']).splitOn ' ' = ["Cmnd_Alias".toList, name, []] := by
    have whole : ' ' ∉ name := fun inside => word.2 _ inside (by decide)
    have split : "Cmnd_Alias ".toList ++ name ++ [' '] = "Cmnd_Alias".toList ++ ' ' :: (name ++ ' ' :: []) := by
      simp only [List.append_assoc]
      rfl
    rw [split, List.splitOn_append_cons_self, List.splitOn_append_cons_self, List.splitOn_eq_singleton whole]
    rfl
  have solid : [("Cmnd_Alias".toList : List Char), name, []].filter (· != []) = ["Cmnd_Alias".toList, name] := by
    simp [word.1]
  have values := splitOn_commands plain some_ (by simp : ∀ c ∈ [' '], c = ' ')
  rw [readLine, cut, List.takeWhile_append_of_pos left, List.dropWhile_append_of_pos left]
  simp only [List.takeWhile_cons, bne_self_eq_false, List.append_nil, List.dropWhile_cons, Bool.false_eq_true,
    ↓reduceIte, List.drop_succ_cons, List.drop_zero, words, solid, values]

theorem readLine_grant {user name : List Char} (word : Plain user) (other : user ≠ "Cmnd_Alias".toList) :
    readLine (user ++ " ALL=(root) NOPASSWD: ".toList ++ name) = some (.grant user name) := by
  have left : ∀ c ∈ user ++ " ALL".toList, (c != '=') = true := by
    intro c inside
    rw [bne_iff_ne]
    rintro rfl
    rcases List.mem_append.mp inside with inside | inside
    · exact word.2 _ inside (by decide)
    · exact absurd inside (by decide)
  have cut : user ++ " ALL=(root) NOPASSWD: ".toList ++ name =
      (user ++ " ALL".toList) ++ '=' :: ("(root) NOPASSWD: ".toList ++ name) := by
    simp only [List.append_assoc]
    rfl
  have words : (user ++ " ALL".toList).splitOn ' ' = [user, "ALL".toList] := by
    have whole : ' ' ∉ user := fun inside => word.2 _ inside (by decide)
    have split : user ++ " ALL".toList = user ++ ' ' :: "ALL".toList := rfl
    rw [split, List.splitOn_append_cons_self, List.splitOn_eq_singleton whole]
    rfl
  have solid : [user, "ALL".toList].filter (· != []) = [user, "ALL".toList] := by
    simp [word.1]
  rw [readLine, cut, List.takeWhile_append_of_pos left, List.dropWhile_append_of_pos left]
  simp only [List.takeWhile_cons, bne_self_eq_false, List.append_nil, List.dropWhile_cons, Bool.false_eq_true,
    ↓reduceIte, List.drop_succ_cons, List.drop_zero, words, solid, if_neg other, true_and, List.prefix_append,
    List.drop_left]

/-! ## Files -/

theorem not_mem_of_plain {text : List Char} (word : Plain text) {c : Char} (special : c ∈ [' ', ',', '=', '\\', '\n']) :
    c ∉ text := fun inside => word.2 c inside special

theorem not_mem_intercalate {sep : List Char} {c : Char} {commands : List (List Char)} (separator : c ∉ sep)
    (plain : ∀ command ∈ commands, c ∉ command) : c ∉ sep.intercalate commands := by
  induction commands with
  | nil => exact List.not_mem_nil
  | cons first commands ih =>
    have own := plain first List.mem_cons_self
    cases commands with
    | nil => rwa [List.intercalate_singleton]
    | cons second commands =>
      rw [List.intercalate_cons_cons, List.mem_append, List.mem_append]
      exact not_or.mpr ⟨not_or.mpr ⟨own, separator⟩, ih fun command member => plain command (List.mem_cons_of_mem _ member)⟩

/-- The file names exactly its commands, and lets exactly its user run them. -/
theorem read_render {name user : List Char} (word : Plain name) (person : Plain user)
    (other : user ≠ "Cmnd_Alias".toList) {commands : List (List Char)}
    (plain : ∀ command ∈ commands, PlainCommand command) (some_ : commands ≠ []) :
    read (render name user commands) = [.alias_ name commands, .grant user name] := by
  have backslash : '\\' ∈ [' ', ',', '=', '\\', '\n'] := by decide
  have newline : '\n' ∈ [' ', ',', '=', '\\', '\n'] := by decide
  have front : '\\' ∉ "Cmnd_Alias ".toList ++ name ++ " = ".toList := by
    simp only [List.mem_append, not_or]
    exact ⟨⟨by decide, not_mem_of_plain word backslash⟩, by decide⟩
  have back : '\\' ∉ "\n".toList ++ user ++ " ALL=(root) NOPASSWD: ".toList ++ name ++ "\n".toList := by
    simp only [List.mem_append, not_or]
    exact ⟨⟨⟨⟨by decide, not_mem_of_plain person backslash⟩, by decide⟩, not_mem_of_plain word backslash⟩, by decide⟩
  have joined : joinContinued (render name user commands) =
      ("Cmnd_Alias ".toList ++ name ++ " = ".toList ++ ",   ".toList.intercalate commands) ++
        '\n' :: ((user ++ " ALL=(root) NOPASSWD: ".toList ++ name) ++ '\n' :: []) := by
    have parts : render name user commands = ("Cmnd_Alias ".toList ++ name ++ " = ".toList) ++
        (", \\\n  ".toList.intercalate commands ++
          ("\n".toList ++ user ++ " ALL=(root) NOPASSWD: ".toList ++ name ++ "\n".toList)) := by
      have regroup (a b c d e f g : List Char) : a ++ b ++ c ++ d ++ e ++ f ++ g ++ b ++ e =
          (a ++ b ++ c) ++ (d ++ (e ++ f ++ g ++ b ++ e)) := by simp only [List.append_assoc]
      exact regroup _ _ _ _ _ _ _
    have last := joinContinued_append back []
    rw [List.append_nil, joinContinued, List.append_nil] at last
    rw [parts, joinContinued_append front, joinContinued_intercalate plain, last]
    simp only [List.append_assoc]
    rfl
  have first : '\n' ∉ "Cmnd_Alias ".toList ++ name ++ " = ".toList ++ ",   ".toList.intercalate commands := by
    simp only [List.mem_append, not_or]
    refine ⟨⟨⟨by decide, not_mem_of_plain word newline⟩, by decide⟩, not_mem_intercalate (by decide) ?_⟩
    exact fun command member inside => (plain command member).plain _ inside (by decide)
  have second : '\n' ∉ user ++ " ALL=(root) NOPASSWD: ".toList ++ name := by
    simp only [List.mem_append, not_or]
    exact ⟨⟨not_mem_of_plain person newline, by decide⟩, not_mem_of_plain word newline⟩
  have lines : (joinContinued (render name user commands)).splitOn '\n' =
      ["Cmnd_Alias ".toList ++ name ++ " = ".toList ++ ",   ".toList.intercalate commands,
        user ++ " ALL=(root) NOPASSWD: ".toList ++ name, []] := by
    rw [joined, List.splitOn_append_cons_self, List.splitOn_append_cons_self, List.splitOn_eq_singleton first,
      List.splitOn_eq_singleton second]
    rfl
  have blank : readLine [] = none := rfl
  rw [read, lines, List.filterMap_cons_some (readLine_alias word plain some_),
    List.filterMap_cons_some (readLine_grant person other), List.filterMap_cons_none blank, List.filterMap_nil]

theorem grants_iff {text user : String} {name : List Char} {commands : List (List Char)} (word : Plain name)
    (person : Plain user.toList) (other : user ≠ "Cmnd_Alias") (plain : ∀ command ∈ commands, PlainCommand command)
    (some_ : commands ≠ []) (rendered : text.toList = render name user.toList commands) (somebody command : String) :
    Grants text somebody command ↔ somebody = user ∧ command.toList ∈ commands := by
  have otherChars : user.toList ≠ "Cmnd_Alias".toList := mt String.toList_inj.mp other
  have lines := read_render word person otherChars plain some_
  rw [Grants, rendered, lines]
  constructor
  · rintro ⟨_, _, grant, aliased, member⟩
    simp only [List.mem_cons, reduceCtorEq, Line.grant.injEq, Line.alias_.injEq, List.not_mem_nil, or_false,
      false_or] at grant aliased
    obtain ⟨same, -⟩ := grant
    obtain ⟨-, rfl⟩ := aliased
    exact ⟨String.toList_inj.mp same, member⟩
  · rintro ⟨rfl, member⟩
    exact ⟨name, commands, by simp, by simp, member⟩

end Sudoers
