import Mathlib.Data.List.Induction
import TestFlow.FileSystem

/-! # Writing a file within its directories

Directories are made before the file is written, and the file is emptied before its text is, so the work can stop
half-way. If everything on the disk is in a directory, a missing directory has nothing below it that could be in the
way: a directory or a file in the way stops the work before it changes anything. A name that the system does not take
may be met later, and a text without bytes is met last. What is left then is directories that were missing, and the
file emptied.
-/

namespace TestFlow

/-! ## Names that the system takes -/

/-- Whether a file or a directory can have a name: no NUL is in it, and no character without bytes. -/
def Naming.canHold (naming : Naming) (name : String) : Bool :=
  name.toList.all fun c => c ≠ '\x00' && !naming.surrogates.isByteless c

/-- Whether names are short enough, each of them and all in one path. -/
structure Naming.Fits (naming : Naming) (names : List String) : Prop where
  each : ∀ name ∈ names, naming.surrogates.nameSize name ≤ naming.longestName
  whole : naming.pathSize names ≤ naming.longestPath

/-- Whether the names of a path are such as the system takes. -/
structure Naming.Takes (naming : Naming) (names : List String) : Prop extends naming.Fits names where
  held : ∀ name ∈ names, naming.canHold name = true

section

variable {naming : Naming} {front back : List String} {path : Path} {onNul : Failure}

theorem Naming.pathSize_append :
    naming.pathSize (front ++ back) = naming.pathSize front + naming.pathSize back := by
  induction front with
  | nil => simp [pathSize]
  | cons name rest ih =>
    simp only [pathSize, List.cons_append, List.foldr_cons] at ih ⊢
    omega

theorem Naming.Fits.of_append (fits : naming.Fits (front ++ back)) : naming.Fits front := by
  refine ⟨fun name member => fits.each name (List.mem_append_left back member), ?_⟩
  have whole := fits.whole
  rw [Naming.pathSize_append] at whole
  omega

theorem Naming.Takes.of_append (takes : naming.Takes (front ++ back)) : naming.Takes front :=
  ⟨takes.toFits.of_append, fun name member => takes.held name (List.mem_append_left back member)⟩

/-- The system is asked for a path exactly if its names can be held. -/
theorem Naming.refusal?_eq_none_iff :
    naming.refusal? onNul path = none ↔ ∀ name ∈ path.names, naming.canHold name = true := by
  have asked : naming.refusal? onNul path = none ↔
      path.names.any (·.toList.any naming.surrogates.isByteless) = false ∧ path.holdsNul = false := by
    simp only [Naming.refusal?]
    cases path.names.any (·.toList.any naming.surrogates.isByteless) <;> cases path.holdsNul <;> simp
  have nulFree {name : String} : '\x00' ∉ name.toList ↔ ∀ c ∈ name.toList, c ≠ '\x00' :=
    ⟨fun absent c member same => absent (same ▸ member), fun clean member => clean _ member rfl⟩
  simp only [asked, Path.holdsNul, Naming.canHold, List.any_eq_false, List.any_eq_true, List.all_eq_true,
    List.contains_eq_mem, decide_eq_true_eq, Bool.and_eq_true, Bool.not_eq_true', nulFree]
  grind

theorem Naming.Takes.refusal? (takes : naming.Takes path.names) : naming.refusal? onNul path = none :=
  refusal?_eq_none_iff.mpr takes.held

end

namespace FileSystem

/-! ## Following a path -/

/-- Whether everything is in a directory, as it is on a disk. -/
def IsTree (files : FileSystem) : Prop :=
  ∀ location, location ≠ [] → files.lookup? location ≠ none →
    files.lookup? location.dropLast = some .directory

/-- Whether there are directories all the way to a location. -/
def Reaches (files : FileSystem) (location : Location) : Prop :=
  ∀ above, above <+: location → above ≠ location → files.lookup? above = some .directory

/-- Whether a file is at a location or above it, so that it can be no directory. -/
def InTheWay (files : FileSystem) (location : Location) : Prop :=
  ∃ above content, above <+: location ∧ files.lookup? above = some (.file content)

/-- What comes of following names from the root down: the location they name, a gap behind directories, a file in
the way, or a name too long. -/
inductive Comes (files : FileSystem) (names : Location) : Except Obstacle Location → Prop where
  | arrives (fits : files.naming.Fits names) (reached : files.Reaches names) : Comes files names (.ok names)
  | gap {above : Location} (leads : above <+: names) (proper : above ≠ names) (reached : files.Reaches above)
      (missing : files.lookup? above = none) : Comes files names (.error .missing)
  | blocked {above : Location} {content : ByteArray} (leads : above <+: names) (proper : above ≠ names)
      (found : files.lookup? above = some (.file content)) : Comes files names (.error .notADirectory)
  | tooLong (long : ¬ files.naming.Fits names) : Comes files names (.error .tooLong)

section

variable {files : FileSystem} {location names parent above : Location} {name : String} {path : Path}

theorem ne_of_leads (leads : above <+: parent) : above ≠ parent ++ [name] := by
  rintro rfl
  exact absurd leads.length_le (by simp)

theorem InTheWay.of_parent (inTheWay : files.InTheWay parent) : files.InTheWay (parent ++ [name]) := by
  obtain ⟨above, content, leads, found⟩ := inTheWay
  exact ⟨above, content, leads.trans (List.prefix_append _ _), found⟩

theorem InTheWay.of_missing (inTheWay : files.InTheWay (parent ++ [name]))
    (missing : files.lookup? (parent ++ [name]) = none) : files.InTheWay parent := by
  obtain ⟨above, content, leads, found⟩ := inTheWay
  rcases List.prefix_concat_iff.mp leads with rfl | within
  · rw [missing] at found
    cases found
  · exact ⟨above, content, within, found⟩

theorem IsTree.directory_above {entry : Entry} (tree : files.IsTree)
    (there : files.lookup? (parent ++ [name]) = some entry) : files.lookup? parent = some .directory := by
  simpa using tree (parent ++ [name]) (by simp) (by simp [there])

theorem IsTree.reaches (tree : files.IsTree) (there : files.lookup? location ≠ none) : files.Reaches location := by
  intro above leads proper
  induction location using List.reverseRecOn with
  | nil => exact absurd (List.prefix_nil.mp leads) proper
  | append_singleton parent name ih =>
    obtain ⟨entry, found⟩ := Option.ne_none_iff_exists'.mp there
    have parentThere := tree.directory_above found
    rcases List.prefix_concat_iff.mp leads with same | within
    · exact absurd same proper
    · by_cases same : above = parent
      · rw [same, parentThere]
      · exact ih (by simp [parentThere]) within same

/-- Behind a gap there is nothing, and no file is in the way to it. -/
theorem IsTree.gap (tree : files.IsTree) (leads : above <+: location) (proper : above ≠ location)
    (reached : files.Reaches above) (missing : files.lookup? above = none) :
    files.lookup? location = none ∧ ¬ files.InTheWay location := by
  have beyond {other : Location} (leads : above <+: other) (proper : above ≠ other) :
      files.lookup? other = none := by
    by_contra there
    rw [tree.reaches there above leads proper] at missing
    cases missing
  refine ⟨beyond leads proper, ?_⟩
  rintro ⟨other, content, leadsToo, found⟩
  by_cases same : other = above
  · rw [same, missing] at found
    cases found
  · rcases List.prefix_or_prefix_of_prefix leads leadsToo with behind | before
    · rw [beyond behind (Ne.symm same)] at found
      cases found
    · rw [reached other before same] at found
      cases found

theorem reaches_append_singleton (directories : ∀ above, above <+: parent → files.lookup? above = some .directory) :
    files.Reaches (parent ++ [name]) := by
  intro above leads proper
  rcases List.prefix_concat_iff.mp leads with same | within
  · exact absurd same proper
  · exact directories above within

theorem follow_append_singleton (start : Location) :
    files.follow start (names ++ [name]) = (files.follow start names).bind (files.follow · [name]) := by
  induction names generalizing start with
  | nil => rfl
  | cons first rest ih =>
    rw [List.cons_append, follow, follow]
    split
    · rfl
    · rfl
    · split
      · rfl
      · exact ih _

theorem Comes.of_parent {obstacle : Obstacle} (came : Comes files parent (.error obstacle)) :
    Comes files (parent ++ [name]) (.error obstacle) := by
  cases came with
  | gap leads _ reached missing => exact .gap (leads.trans (List.prefix_append _ _)) (ne_of_leads leads) reached missing
  | blocked leads _ found => exact .blocked (leads.trans (List.prefix_append _ _)) (ne_of_leads leads) found
  | tooLong long => exact .tooLong fun fits => long fits.of_append

/-- One name more is followed from directories. -/
theorem comes_follow_singleton (fits : files.naming.Fits parent) (reached : files.Reaches parent)
    (notDots : name ≠ "..") (whole : files.naming.pathSize (parent ++ [name]) ≤ files.naming.longestPath) :
    Comes files (parent ++ [name]) (files.follow parent [name]) := by
  simp only [follow, if_neg notDots]
  cases found : files.lookup? parent with
  | none => exact .gap (List.prefix_append _ _) (by simp) reached found
  | some entry =>
    cases entry with
    | file content => exact .blocked (List.prefix_append _ _) (by simp) found
    | directory =>
      by_cases long : files.naming.longestName < files.naming.surrogates.nameSize name
      · simp only [if_pos long]
        refine .tooLong fun fits => ?_
        have := fits.each name (by simp)
        omega
      · simp only [if_neg long]
        have fitsAll : files.naming.Fits (parent ++ [name]) := by
          refine ⟨fun other member => ?_, whole⟩
          rcases List.mem_append.mp member with inParent | isLast
          · exact fits.each other inParent
          · rw [List.mem_singleton.mp isLast]
            omega
        refine .arrives fitsAll (reaches_append_singleton fun above leads => ?_)
        by_cases same : above = parent
        · rw [same, found]
        · exact reached above leads same

theorem comes_follow (plain : ".." ∉ names) (whole : files.naming.pathSize names ≤ files.naming.longestPath) :
    Comes files names (files.follow [] names) := by
  induction names using List.reverseRecOn with
  | nil => exact .arrives ⟨by simp, whole⟩ fun above leads proper => absurd (List.prefix_nil.mp leads) proper
  | append_singleton parent name ih =>
    obtain ⟨plainParent, notDots⟩ : ".." ∉ parent ∧ name ≠ ".." := by
      simpa [eq_comm] using plain
    have shorter := whole
    rw [Naming.pathSize_append] at shorter
    have parentCame := ih plainParent (by omega)
    rw [follow_append_singleton]
    generalize files.follow [] parent = came at parentCame
    cases parentCame with
    | arrives fits reached => exact comes_follow_singleton fits reached notDots whole
    | gap leads proper reached missing => exact (Comes.gap leads proper reached missing).of_parent
    | blocked leads proper found => exact (Comes.blocked leads proper found).of_parent
    | tooLong long => exact (Comes.tooLong long).of_parent

theorem comes_locate (files : FileSystem) (plain : ".." ∉ path.names) :
    Comes files path.names (files.locate path) := by
  rw [locate]
  split
  · rename_i long
    refine .tooLong fun fits => ?_
    have := fits.whole
    omega
  · rename_i short
    exact comes_follow plain (by omega)

/-- Directories lead to the location, unless a name is too long. -/
theorem locate_reached (plain : ".." ∉ path.names) (reached : files.Reaches path.names) :
    files.locate path = .ok path.names ∧ files.naming.Fits path.names ∨
      files.locate path = .error .tooLong ∧ ¬ files.naming.Fits path.names := by
  have came := comes_locate files plain
  generalize files.locate path = outcome at came
  cases came with
  | arrives fits => exact .inl ⟨rfl, fits⟩
  | gap leads proper _ missing =>
    rw [reached _ leads proper] at missing
    cases missing
  | blocked leads proper found =>
    rw [reached _ leads proper] at found
    cases found
  | tooLong long => exact .inr ⟨rfl, long⟩

end

/-! ## Making directories -/

/-- What work on the directories down to a location leaves: each of those that were missing may have been made. -/
structure Begun (files : FileSystem) (location : Location) (left : FileSystem) : Prop where
  naming : left.naming = files.naming
  others : ∀ other, left.lookup? other = files.lookup? other ∨
    (other <+: location ∧ files.lookup? other = none ∧ left.lookup? other = some .directory)
  kept : files.lookup? location ≠ none ∨ files.InTheWay location → left = files

/-- Directories down to a location, made as far as they were missing. -/
structure Grown (files : FileSystem) (location : Location) (grown : FileSystem) : Prop
    extends Begun files location grown where
  directories : ∀ above, above <+: location → grown.lookup? above = some .directory

section

variable {files grown left : FileSystem} {location parent : Location} {name : String} {path : Path}

theorem Begun.refl (files : FileSystem) (location : Location) : Begun files location files :=
  ⟨rfl, fun _ => .inl rfl, fun _ => rfl⟩

theorem Begun.elsewhere (begun : Begun files location left) {other : Location} (outside : ¬ other <+: location) :
    left.lookup? other = files.lookup? other :=
  (begun.others other).resolve_right fun made => outside made.1

theorem Begun.further (begun : Begun files parent left) (missing : files.lookup? (parent ++ [name]) = none)
    (clear : ¬ files.InTheWay (parent ++ [name])) : Begun files (parent ++ [name]) left := by
  refine ⟨begun.naming, fun other => ?_, ?_⟩
  · rcases begun.others other with same | ⟨leads, made⟩
    · exact .inl same
    · exact .inr ⟨leads.trans (List.prefix_append _ _), made⟩
  · rintro (there | inTheWay)
    · exact absurd missing there
    · exact absurd inTheWay clear

theorem Grown.clear (grew : Grown files location grown) : ¬ files.InTheWay location := by
  rintro ⟨above, content, leads, found⟩
  have directory := grew.directories above leads
  rcases grew.others above with same | ⟨-, missing, -⟩
  · rw [same, found] at directory
    cases directory
  · rw [missing] at found
    cases found

theorem Reaches.grown_of_directory (reached : files.Reaches location)
    (there : files.lookup? location = some .directory) : Grown files location files := by
  refine ⟨.refl files location, fun above leads => ?_⟩
  by_cases same : above = location
  · rw [same, there]
  · exact reached above leads same

/-- One directory more is made in the directories that are there now. -/
theorem Grown.further (grew : Grown files parent grown) (missing : files.lookup? (parent ++ [name]) = none) :
    Grown files (parent ++ [name]) (grown.put (parent ++ [name]) .directory) := by
  have below : parent ++ [name] ≠ [] := by simp
  refine ⟨⟨grew.naming, fun other => ?_, ?_⟩, fun above leads => ?_⟩
  · rw [lookup?_put below]
    split
    · rename_i same
      exact .inr ⟨same ▸ List.prefix_rfl, same ▸ missing, rfl⟩
    · rcases grew.others other with same | ⟨leads, made⟩
      · exact .inl same
      · exact .inr ⟨leads.trans (List.prefix_append _ _), made⟩
  · rintro (there | inTheWay)
    · exact absurd missing there
    · exact absurd (InTheWay.of_missing inTheWay missing) grew.clear
  · rw [lookup?_put below]
    rcases List.prefix_concat_iff.mp leads with same | within
    · rw [if_pos same]
    · rw [if_neg (ne_of_leads within)]
      exact grew.directories above within

/-- What comes of making one directory: it is there then, or it has no parent to be in, or it is refused because a
file is in the way or a name is none. -/
inductive Makes (files : FileSystem) (location : Location) : Making → Prop where
  | made {grown : FileSystem} (grew : Grown files location grown) : Makes files location (.made grown)
  | parentMissing (missing : files.lookup? location = none) (clear : ¬ files.InTheWay location) :
      Makes files location .parentMissing
  | refused (failure : Failure) (reason : files.InTheWay location ∨ ¬ files.naming.Takes location) :
      Makes files location (.refused failure)

theorem grown_append_singleton (reached : files.Reaches (parent ++ [name]))
    (missing : files.lookup? (parent ++ [name]) = none) :
    Grown files (parent ++ [name]) (files.put (parent ++ [name]) .directory) := by
  have there : files.lookup? parent = some .directory := reached parent (by simp) (by simp)
  have above : files.Reaches parent := fun above leads _ =>
    reached above (leads.trans (List.prefix_append _ _)) (ne_of_leads leads)
  exact (above.grown_of_directory there).further missing

theorem makes_makeDirectory (tree : files.IsTree) (plain : ".." ∉ path.names) :
    Makes files path.names (files.makeDirectory path) := by
  rw [makeDirectory]
  cases refused : files.naming.refusal? (.nulInPath "mkdir") path with
  | some failure =>
    refine .refused failure (.inr fun takes => ?_)
    rw [takes.refusal?] at refused
    cases refused
  | none =>
    have came := comes_locate files plain
    generalize files.locate path = outcome at came
    cases came with
    | arrives fits reached =>
      cases found : files.lookup? path.names with
      | none =>
        rcases List.eq_nil_or_concat path.names with isRoot | ⟨parent, name, names⟩
        · rw [isRoot] at found
          cases found
        · rw [List.concat_eq_append] at names
          rw [names] at found reached ⊢
          simp only [found]
          exact .made (grown_append_singleton reached found)
      | some entry =>
        cases entry with
        | directory =>
          simp only [found]
          exact .made (reached.grown_of_directory found)
        | file content =>
          simp only [found]
          exact .refused _ (.inl ⟨_, content, List.prefix_rfl, found⟩)
    | gap leads proper reached missing =>
      obtain ⟨nothing, clear⟩ := tree.gap leads proper reached missing
      exact .parentMissing nothing clear
    | blocked leads proper found => exact .refused _ (.inl ⟨_, _, leads, found⟩)
    | tooLong long => exact .refused _ (.inr fun takes => long takes.toFits)

/-- A missing directory is made in the one above it, if the system takes its name. -/
theorem makeDirectory_missing (plain : ".." ∉ path.names) (reached : files.Reaches path.names)
    (missing : files.lookup? path.names = none) :
    files.makeDirectory path = .made (files.put path.names .directory) ∨
      ∃ failure, files.makeDirectory path = .refused failure ∧ ¬ files.naming.Takes path.names := by
  cases refused : files.naming.refusal? (.nulInPath "mkdir") path with
  | some failure =>
    refine .inr ⟨failure, by simp only [makeDirectory, refused], fun takes => ?_⟩
    rw [takes.refusal?] at refused
    cases refused
  | none =>
    rcases locate_reached plain reached with ⟨came, -⟩ | ⟨came, long⟩
    · exact .inl (by simp only [makeDirectory, refused, came, missing])
    · exact .inr ⟨.nameTooLong path.text, by simp only [makeDirectory, refused, came],
        fun takes => long takes.toFits⟩

/-- What comes of making the directories down to a location: all are there then, or the work has stopped. -/
inductive MakesAll (files : FileSystem) (location : Location) : Change → Prop where
  | done {grown : FileSystem} (grew : Grown files location grown) : MakesAll files location (.done grown)
  | stopped (failure : Failure) {left : FileSystem} (begun : Begun files location left)
      (reason : files.InTheWay location ∨ ¬ files.naming.Takes location) :
      MakesAll files location (.stopped failure left)

theorem makesAll_makeDirectories (tree : files.IsTree) (plain : ".." ∉ location) :
    MakesAll files location (files.makeDirectories location.reverse) := by
  induction location using List.reverseRecOn with
  | nil =>
    have root : files.Reaches [] := fun above leads proper => absurd (List.prefix_nil.mp leads) proper
    exact .done (root.grown_of_directory files.lookup?_root)
  | append_singleton parent name ih =>
    have plainParent : ".." ∉ parent := fun member => plain (List.mem_append_left _ member)
    have parents := ih plainParent
    rw [List.reverse_append, List.reverse_singleton, List.singleton_append, makeDirectories]
    generalize target : Path.rooted (name :: parent.reverse).reverse = path
    have names : path.names = parent ++ [name] := by simp [← target, Path.rooted]
    have plainPath : ".." ∉ path.names := names ▸ plain
    have first := makes_makeDirectory tree plainPath
    rw [names] at first
    generalize files.makeDirectory path = making at first
    cases first with
    | made grew => exact .done grew
    | refused failure reason => exact .stopped failure (.refl files _) reason
    | parentMissing missing clear =>
      generalize files.makeDirectories parent.reverse = change at parents
      cases parents with
      | stopped failure begun reason =>
        refine .stopped failure (begun.further missing clear) ?_
        exact reason.imp InTheWay.of_parent fun refused takes => refused takes.of_append
      | @done grown grew =>
        -- What was missing is still missing, and now it has a directory to be in.
        have still : grown.lookup? path.names = none := by
          rw [names, grew.elsewhere fun within => absurd within.length_le (by simp), missing]
        have reached : grown.Reaches path.names := names ▸ reaches_append_singleton grew.directories
        rcases makeDirectory_missing plainPath reached still with made | ⟨failure, refused, reason⟩
        · rw [names] at made
          simp only [Change.done_andThen, made]
          exact .done (grew.further missing)
        · rw [names, grew.naming] at reason
          simp only [Change.done_andThen, refused]
          exact .stopped failure (grew.toBegun.further missing clear) (.inr reason)

end

/-! ## Writing a file -/

/-- Whether no file can be written at a location: there is a directory, or a file above. -/
def Blocked (files : FileSystem) (location : Location) : Prop :=
  files.lookup? location = some .directory ∨
    ∃ above content, above <+: location ∧ above ≠ location ∧ files.lookup? above = some (.file content)

/-- Whether a text holds a surrogate, so that it has no bytes. -/
def HoldsSurrogate (files : FileSystem) (text : String) : Prop :=
  ∃ c ∈ text.toList, files.naming.surrogates.holds c = true

/-- What is away from a location: as it was, or a directory above that was missing. -/
def Spares (files : FileSystem) (location : Location) (after : FileSystem) : Prop :=
  ∀ other, other ≠ location → after.lookup? other = files.lookup? other ∨
    (other <+: location ∧ files.lookup? other = none ∧ after.lookup? other = some .directory)

/-- A file that is written, within directories that are made as far as they were missing. -/
structure Written (files : FileSystem) (location : Location) (content : ByteArray)
    (written : FileSystem) : Prop where
  clear : ¬ files.Blocked location
  takes : files.naming.Takes location
  holds : written.lookup? location = some (.file content)
  directories : written.Reaches location
  others : files.Spares location written

/-- Writing that has stopped, either before the file or at its text. It is refused where nothing can be written, and
then nothing has changed, or where a name is none that the system takes. Otherwise the text has no bytes, and the file
is empty. -/
inductive Abandoned (files : FileSystem) (location : Location) (text : String) (left : FileSystem) : Prop where
  | refused (reason : files.Blocked location ∨ ¬ files.naming.Takes location)
      (kept : files.Blocked location → left = files) (others : files.Spares location left)
      (itself : left.lookup? location = files.lookup? location)
  | emptied (held : files.HoldsSurrogate text) (takes : files.naming.Takes location)
      (clear : ¬ files.Blocked location) (others : files.Spares location left)
      (empty : left.lookup? location = some (.file .empty))

/-- What comes of writing a text. -/
inductive Writes (files : FileSystem) (location : Location) (text : String) : Change → Prop where
  | done {written : FileSystem} (encoded : ¬ files.HoldsSurrogate text)
      (wrote : Written files location text.toUTF8 written) : Writes files location text (.done written)
  | stopped (failure : Failure) {left : FileSystem} (abandoned : Abandoned files location text left) :
      Writes files location text (.stopped failure left)

section

variable {files grown after : FileSystem} {location parent : Location} {name text : String} {path : Path}
  {content : ByteArray}

theorem blocked_append_singleton_iff :
    files.Blocked (parent ++ [name]) ↔
      files.lookup? (parent ++ [name]) = some .directory ∨ files.InTheWay parent := by
  refine or_congr_right ⟨?_, ?_⟩
  · rintro ⟨above, content, leads, proper, found⟩
    rcases List.prefix_concat_iff.mp leads with same | within
    · exact absurd same proper
    · exact ⟨above, content, within, found⟩
  · rintro ⟨above, content, leads, found⟩
    exact ⟨above, content, leads.trans (List.prefix_append _ _), ne_of_leads leads, found⟩

theorem Spares.of_begun (begun : Begun files parent after) : files.Spares (parent ++ [name]) after := by
  intro other _
  rcases begun.others other with same | ⟨leads, made⟩
  · exact .inl same
  · exact .inr ⟨leads.trans (List.prefix_append _ _), made⟩

theorem Spares.put (spares : files.Spares location after) (below : location ≠ []) (entry : Entry) :
    files.Spares location (after.put location entry) := by
  intro other away
  rw [lookup?_put below, if_neg away]
  exact spares other away

theorem put_put (files : FileSystem) (location : Location) (entry other : Entry) :
    (files.put location entry).put location other = files.put location other := by
  simp [put, List.filter_filter]

/-- A file is written into directories that are there, if the system takes its name and it is no directory. -/
theorem writeFile_free (plain : ".." ∉ path.names) (reached : files.Reaches path.names)
    (takes : files.naming.Takes path.names) (free : files.lookup? path.names ≠ some .directory) :
    files.writeFile path content = .done (files.put path.names (.file content)) := by
  rcases locate_reached plain reached with ⟨came, -⟩ | ⟨-, long⟩
  · simp only [writeFile, takes.refusal?, came, if_neg free]
  · exact absurd takes.toFits long

theorem writeFile_unfree (content : ByteArray) (plain : ".." ∉ path.names) (reached : files.Reaches path.names)
    (unfree : ¬ files.naming.Takes path.names ∨ files.lookup? path.names = some .directory) :
    ∃ failure, files.writeFile path content = .stopped failure files := by
  cases refused : files.naming.refusal? .nulInFileName path with
  | some failure => exact ⟨failure, by simp only [writeFile, refused]⟩
  | none =>
    rcases locate_reached plain reached with ⟨came, fits⟩ | ⟨came, -⟩
    · have takes : files.naming.Takes path.names := ⟨fits, Naming.refusal?_eq_none_iff.mp refused⟩
      have there := unfree.resolve_left (not_not_intro takes)
      exact ⟨.directoryInTheWay path.text, by simp only [writeFile, refused, came, if_pos there]⟩
    · exact ⟨.nameTooLong path.text, by simp only [writeFile, refused, came]⟩

/-- In directories that are there a text is written, or the file is left alone, or it is left empty. -/
theorem writeText_cases (text : String) (plain : ".." ∉ path.names) (reached : files.Reaches path.names) :
    (files.naming.Takes path.names ∧ files.lookup? path.names ≠ some .directory ∧
      (¬ files.HoldsSurrogate text ∧
          files.writeText path text = .done (files.put path.names (.file text.toUTF8)) ∨
        files.HoldsSurrogate text ∧
          ∃ failure, files.writeText path text = .stopped failure (files.put path.names (.file .empty)))) ∨
    ((¬ files.naming.Takes path.names ∨ files.lookup? path.names = some .directory) ∧
      ∃ failure, files.writeText path text = .stopped failure files) := by
  by_cases unfree : ¬ files.naming.Takes path.names ∨ files.lookup? path.names = some .directory
  · obtain ⟨failure, stopped⟩ := writeFile_unfree .empty plain reached unfree
    exact .inr ⟨unfree, failure, by rw [writeText, stopped, Change.stopped_andThen]⟩
  · obtain ⟨takes, free⟩ : files.naming.Takes path.names ∧ files.lookup? path.names ≠ some .directory := by
      simpa using unfree
    refine .inl ⟨takes, free, ?_⟩
    rw [writeText, writeFile_free plain reached takes free, Change.done_andThen, put_naming]
    rcases files.naming.surrogates.encode_cases text with ⟨encoded, bytes⟩ | ⟨⟨trouble, failed⟩, holds⟩
    · have below : path.names ≠ [] := by
        intro isRoot
        rw [isRoot] at free
        exact free files.lookup?_root
      have emptied (other : Location) :
          (files.put path.names (.file .empty)).lookup? other =
            if other = path.names then some (.file .empty) else files.lookup? other := lookup?_put below other
      have reachedStill : (files.put path.names (.file .empty)).Reaches path.names := by
        intro above leads proper
        rw [emptied, if_neg proper]
        exact reached above leads proper
      have freeStill : (files.put path.names (.file .empty)).lookup? path.names ≠ some .directory := by
        simp [emptied]
      refine .inl ⟨fun ⟨c, member, holds⟩ => by simp [bytes c member] at holds, ?_⟩
      simp only [encoded]
      rw [writeFile_free plain reachedStill takes freeStill, put_put]
    · exact .inr ⟨holds, .unencodable trouble, by simp only [failed]⟩

/-- Directories that could not all be made keep the file from being written. -/
theorem Begun.abandoned {left : FileSystem} (begun : Begun files parent left) (tree : files.IsTree)
    (reason : files.InTheWay parent ∨ ¬ files.naming.Takes parent) :
    Abandoned files (parent ++ [name]) text left := by
  refine .refused ?_ (fun blocked => ?_) (.of_begun begun) ?_
  · rcases reason with inTheWay | refused
    · exact .inl (blocked_append_singleton_iff.mpr (.inr inTheWay))
    · exact .inr fun takes => refused takes.of_append
  · rcases blocked_append_singleton_iff.mp blocked with there | inTheWay
    · exact begun.kept (.inl (by simp [tree.directory_above there]))
    · exact begun.kept (.inr inTheWay)
  · exact begun.elsewhere fun within => absurd within.length_le (by simp)

/-- What comes of writing a text into directories that have been made for it. -/
theorem Grown.writes (grew : Grown files parent grown) (tree : files.IsTree) (plain : ".." ∉ path.names)
    (names : path.names = parent ++ [name]) (text : String) :
    Writes files path.names text (grown.writeText path text) := by
  have below : path.names ≠ [] := by simp [names]
  have reached : grown.Reaches path.names := names ▸ reaches_append_singleton grew.directories
  have same : grown.lookup? path.names = files.lookup? path.names := by
    rw [names]
    exact grew.elsewhere fun within => absurd within.length_le (by simp)
  have spares : files.Spares path.names grown := names ▸ .of_begun grew.toBegun
  have holds_iff : grown.HoldsSurrogate text ↔ files.HoldsSurrogate text := by
    rw [HoldsSurrogate, HoldsSurrogate, grew.naming]
  have clear (free : files.lookup? path.names ≠ some .directory) : ¬ files.Blocked path.names := by
    rw [names] at free ⊢
    exact fun blocked => (blocked_append_singleton_iff.mp blocked).elim free grew.clear
  rcases writeText_cases text plain reached with
    ⟨takes, free, ⟨encoded, did⟩ | ⟨holds, failure, stopped⟩⟩ | ⟨unfree, failure, stopped⟩
  · rw [did]
    rw [same] at free
    refine .done (fun holds => encoded (holds_iff.mpr holds))
      ⟨clear free, grew.naming ▸ takes, ?_, fun above leads proper => ?_, spares.put below _⟩
    · rw [lookup?_put below, if_pos rfl]
    · rw [lookup?_put below, if_neg proper]
      exact reached above leads proper
  · rw [stopped]
    rw [same] at free
    refine .stopped failure (.emptied (holds_iff.mp holds) (grew.naming ▸ takes) (clear free) (spares.put below _) ?_)
    rw [lookup?_put below, if_pos rfl]
  · rw [stopped]
    rw [same, grew.naming] at unfree
    refine .stopped failure (.refused ?_ (fun blocked => ?_) spares same)
    · rcases unfree with refused | there
      · exact .inr refused
      · exact .inl (.inl there)
    · -- What is there is in a directory, so that no directory has been made.
      have there : files.lookup? (parent ++ [name]) = some .directory := by
        rw [← names]
        by_contra free
        exact clear free blocked
      exact grew.kept (.inl (by simp [tree.directory_above there]))

/-- Writing a text within its directories does all of its work, or it is abandoned. -/
theorem writes_writeWithin (text : String) (tree : files.IsTree) (plain : ".." ∉ path.names) :
    Writes files path.names text (files.writeWithin path text) := by
  rcases List.eq_nil_or_concat path.names with isRoot | ⟨parent, name, names⟩
  · -- The root is a directory, so nothing is made and nothing is written.
    have there : files.lookup? path.names = some .directory := by rw [isRoot, lookup?_root]
    have reached : files.Reaches path.names := tree.reaches (by simp [there])
    have made : files.makeDirectories path.parent.names.reverse = .done files := by
      simp [Path.parent, isRoot, makeDirectories]
    rw [writeWithin, made, Change.done_andThen]
    rcases writeText_cases text plain reached with ⟨-, free, -⟩ | ⟨-, failure, stopped⟩
    · exact absurd there free
    · rw [stopped]
      exact .stopped failure (.refused (.inl (.inl there)) (fun _ => rfl) (fun _ _ => .inl rfl) rfl)
  · rw [List.concat_eq_append] at names
    have parentNames : path.parent.names = parent := by simp [Path.parent, names]
    have plainParent : ".." ∉ parent := fun member => plain (names ▸ List.mem_append_left _ member)
    have made := makesAll_makeDirectories tree plainParent
    rw [writeWithin, parentNames]
    generalize files.makeDirectories parent.reverse = change at made
    cases made with
    | stopped failure begun reason =>
      rw [Change.stopped_andThen, names]
      exact .stopped failure (begun.abandoned tree reason)
    | done grew =>
      rw [Change.done_andThen]
      exact grew.writes tree plain names text

end

end FileSystem

end TestFlow
