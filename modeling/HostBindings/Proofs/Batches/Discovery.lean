import HostBindings.Proofs.Batches.Inputs

/-!
# The documents of a batch

Of all files that the inputs of a batch stand for, each is taken once, in the spelling and at the
position in which it comes first. What was taken can be given as input again. If the path of one
file is too long, nothing is taken at all.

## Main definitions

* `Inputs.Lists` — what is taken of inputs

## Main results

* `Inputs.find?_of_mem_distinctFrom`, `Inputs.pairwise_distinctFrom` — entries come first, in order
* `Inputs.exists_mem_distinctFrom`, `Inputs.nodup_distinctFrom` — each place once
* `Inputs.distinctFrom_prefix`, `Inputs.distinctFrom_eq_self` — more paths, and the same again
* `Inputs.discover_lists` — what is taken, within the limit
* `Inputs.exists_discover_error` — beyond the limit, nothing is
-/

namespace HostBindings

namespace Inputs

variable {tree : FileTree} {texts : List String} {text : String} {path : Path} {place : Place}

variable [WorkingDirectory]

/-- What is taken of many inputs. -/
structure Lists (tree : FileTree) (texts : List String) (found : List Path) : Prop where
  /-- No two entries lead to one place. -/
  single : (found.map (placeOf? tree)).Nodup
  /-- An entry leads to each file that an input stands for. -/
  complete : ∀ text ∈ texts, ∀ path place, Gives tree text path place →
    ∃ entry ∈ found, placeOf? tree entry = some place
  /-- Each entry is what an input stands for, and leads there. -/
  only : ∀ entry ∈ found, ∃ text ∈ texts, ∃ place,
    Gives tree text entry place ∧ placeOf? tree entry = some place
  /-- Of all files that the inputs stand for, one input after the other, the entries are the first
  ones to lead where they do, and in the order in which they come first. -/
  ordered : ∃ files, List.Forall₂ (StandsFor tree) texts files ∧
    (∀ entry ∈ found, files.flatten.find? (fun path => placeOf? tree path = placeOf? tree entry) =
      some entry) ∧
    found.Pairwise fun first second => files.flatten.idxOf first < files.flatten.idxOf second

/-! ### Each place once -/

section Distinct

variable {seen : List (Option Place)} {paths : List Path} {entry : Path}

theorem distinctFrom_of_mem (here : placeOf? tree path ∈ seen) :
    distinctFrom tree seen (path :: paths) = distinctFrom tree seen paths := if_pos here

theorem distinctFrom_of_not_mem (new : placeOf? tree path ∉ seen) :
    distinctFrom tree seen (path :: paths) =
      path :: distinctFrom tree (placeOf? tree path :: seen) paths := if_neg new

/-- An entry leads to no place that was seen before. -/
theorem not_mem_seen (member : entry ∈ distinctFrom tree seen paths) :
    placeOf? tree entry ∉ seen := by
  induction paths generalizing seen with
  | nil => cases member
  | cons path rest ih =>
    by_cases here : placeOf? tree path ∈ seen
    · exact ih (distinctFrom_of_mem here ▸ member)
    · rw [distinctFrom_of_not_mem here] at member
      rcases List.mem_cons.mp member with rfl | later
      · exact here
      · exact fun old => ih later (List.mem_cons_of_mem _ old)

/-- An entry leads to every place that a path leads to, unless that was seen before. -/
theorem exists_mem_distinctFrom (member : path ∈ paths) (new : placeOf? tree path ∉ seen) :
    ∃ entry ∈ distinctFrom tree seen paths, placeOf? tree entry = placeOf? tree path := by
  -- what was seen grows on the way, so the path is found by the first one that leads to its place
  induction paths generalizing seen with
  | nil => cases member
  | cons first rest ih =>
    by_cases here : placeOf? tree first ∈ seen
    · rw [distinctFrom_of_mem here]
      refine ih ((List.mem_cons.mp member).resolve_left ?_) new
      rintro rfl
      exact new here
    · rw [distinctFrom_of_not_mem here]
      by_cases same : placeOf? tree path = placeOf? tree first
      · exact ⟨first, List.mem_cons_self, same.symm⟩
      · have later : path ∈ rest := (List.mem_cons.mp member).resolve_left fun eq => same (eq ▸ rfl)
        obtain ⟨entry, found, leads⟩ := ih later (List.not_mem_cons_of_ne_of_not_mem same new)
        exact ⟨entry, List.mem_cons_of_mem _ found, leads⟩

/-- An entry is the first path that leads where it does. -/
theorem find?_of_mem_distinctFrom (member : entry ∈ distinctFrom tree seen paths) :
    paths.find? (fun path => placeOf? tree path = placeOf? tree entry) = some entry := by
  induction paths generalizing seen with
  | nil => cases member
  | cons path rest ih =>
    by_cases here : placeOf? tree path ∈ seen
    · have later := distinctFrom_of_mem here ▸ member
      have other : placeOf? tree path ≠ placeOf? tree entry := fun same =>
        not_mem_seen later (same ▸ here)
      rw [List.find?_cons_of_neg (by simpa using other)]
      exact ih later
    · rw [distinctFrom_of_not_mem here] at member
      rcases List.mem_cons.mp member with rfl | later
      · exact List.find?_cons_of_pos (by simp)
      · have other : placeOf? tree path ≠ placeOf? tree entry := fun same =>
          not_mem_seen later (same ▸ List.mem_cons_self)
        rw [List.find?_cons_of_neg (by simpa using other)]
        exact ih later

/-- Entries stand in the order in which they come first. -/
theorem pairwise_distinctFrom (tree : FileTree) (seen : List (Option Place)) (paths : List Path) :
    (distinctFrom tree seen paths).Pairwise fun first second =>
      paths.idxOf first < paths.idxOf second := by
  induction paths generalizing seen with
  | nil => exact .nil
  | cons path rest ih =>
    -- behind a path, an entry that leads elsewhere comes as much later as without the path
    have shift {seen : List (Option Place)} (here : placeOf? tree path ∈ seen) {entry : Path}
        (member : entry ∈ distinctFrom tree seen rest) :
        (path :: rest).idxOf entry = rest.idxOf entry + 1 :=
      List.idxOf_cons_ne _ fun same => not_mem_seen member (same ▸ here)
    have behind {seen : List (Option Place)} (here : placeOf? tree path ∈ seen) :
        (distinctFrom tree seen rest).Pairwise fun first second =>
          (path :: rest).idxOf first < (path :: rest).idxOf second := by
      refine (ih seen).imp_of_mem fun first second before => ?_
      rw [shift here first, shift here second]
      exact Nat.succ_lt_succ before
    by_cases here : placeOf? tree path ∈ seen
    · rw [distinctFrom_of_mem here]
      exact behind here
    · rw [distinctFrom_of_not_mem here]
      refine List.pairwise_cons.mpr ⟨fun entry member => ?_, behind List.mem_cons_self⟩
      rw [List.idxOf_cons_self, shift List.mem_cons_self member]
      exact Nat.succ_pos _

/-- No two entries lead to one place, as both would be the first path that leads there. -/
theorem nodup_distinctFrom (tree : FileTree) (seen : List (Option Place)) (paths : List Path) :
    ((distinctFrom tree seen paths).map (placeOf? tree)).Nodup := by
  refine List.pairwise_map.mpr ((pairwise_distinctFrom tree seen paths).imp_of_mem ?_)
  intro first second firstMember secondMember before same
  have found := find?_of_mem_distinctFrom firstMember
  rw [same, find?_of_mem_distinctFrom secondMember] at found
  cases found
  exact Nat.lt_irrefl _ before

/-- More paths only add entries at the end. -/
theorem distinctFrom_prefix (tree : FileTree) (seen : List (Option Place))
    (paths more : List Path) :
    distinctFrom tree seen paths <+: distinctFrom tree seen (paths ++ more) := by
  induction paths generalizing seen with
  | nil => exact List.nil_prefix
  | cons path rest ih =>
    rw [List.cons_append]
    by_cases here : placeOf? tree path ∈ seen
    · rw [distinctFrom_of_mem here, distinctFrom_of_mem here]
      exact ih seen
    · rw [distinctFrom_of_not_mem here, distinctFrom_of_not_mem here]
      exact (List.prefix_cons_inj path).mpr (ih _)

/-- Paths that lead to different places are all taken. -/
theorem distinctFrom_eq_self (single : (paths.map (placeOf? tree)).Nodup)
    (new : ∀ path ∈ paths, placeOf? tree path ∉ seen) : distinctFrom tree seen paths = paths := by
  induction paths generalizing seen with
  | nil => rfl
  | cons path rest ih =>
    rw [List.map_cons, List.nodup_cons] at single
    obtain ⟨first, others⟩ := List.forall_mem_cons.mp new
    rw [distinctFrom_of_not_mem first, ih single.2]
    intro other member
    refine List.not_mem_cons_of_ne_of_not_mem (fun same => single.1 ?_) (others other member)
    exact same ▸ List.mem_map_of_mem member

end Distinct

/-! ### Many inputs -/

/-- What is taken does not depend on the log. -/
theorem ends_discover (tree : FileTree) (texts : List String) :
    (discover tree texts).Ends (do
      let files ← texts.mapM (expand tree)
      return distinct tree files.flatten) :=
  Attempt.ends_bind (Attempt.ends_mapM (ends_candidates tree) texts) fun _ => Attempt.ends_pure _

/-- All files that inputs stand for, one input after the other. -/
theorem mem_flatten {groups : List (List Path)}
    (fits : List.Forall₂ (StandsFor tree) texts groups) :
    path ∈ groups.flatten ↔ ∃ text ∈ texts, ∃ place, Gives tree text path place := by
  rw [List.mem_flatten]
  constructor
  · rintro ⟨files, member, inside⟩
    obtain ⟨text, given, stands⟩ := exists_item_of_mem fits member
    exact ⟨text, given, stands.mem_iff.mp inside⟩
  · rintro ⟨text, given, gives⟩
    obtain ⟨files, member, stands⟩ := exists_result_of_mem fits given
    exact ⟨files, member, stands.mem_iff.mpr gives⟩

/-- Of the files that inputs stand for, each is taken once. -/
theorem lists_distinct (named : Named tree) (within : ∀ text ∈ texts, WithinLimit tree text)
    {groups : List (List Path)} (fits : List.Forall₂ (StandsFor tree) texts groups) :
    Lists tree texts (distinct tree groups.flatten) := by
  have leads {text : String} (given : text ∈ texts) {path : Path} {place : Place}
      (gives : Gives tree text path place) : placeOf? tree path = some place :=
    toOption_eq_some_iff.mpr (gives.located named (within text given))
  refine
    { single := nodup_distinctFrom tree [] groups.flatten
      complete := fun text given path place gives => ?_
      only := fun entry member => ?_
      ordered := ⟨groups, fits, fun _ member => find?_of_mem_distinctFrom member,
        pairwise_distinctFrom tree [] groups.flatten⟩ }
  · have listed : path ∈ groups.flatten := (mem_flatten fits).mpr ⟨text, given, place, gives⟩
    obtain ⟨entry, member, same⟩ := exists_mem_distinctFrom listed List.not_mem_nil
    exact ⟨entry, member, same.trans (leads given gives)⟩
  · obtain ⟨text, given, place, gives⟩ :=
      (mem_flatten fits).mp (List.mem_of_find?_eq_some (find?_of_mem_distinctFrom member))
    exact ⟨text, given, place, gives, leads given gives⟩

theorem candidates_of_isFile (isFile : tree.isFile (.ofString text) = true) :
    candidates tree text = pure [.ofString text] := by
  obtain ⟨place, content, led, found⟩ := FileTree.isFile_iff.mp isFile
  simp only [candidates, FileTree.probe_eq led, found]

/-- Files that lead to different places are taken as they are. -/
theorem discover_texts {entries : List Path} (proper : ∀ entry ∈ entries, entry.IsProper)
    (isFile : ∀ entry ∈ entries, tree.isFile entry = true)
    (single : (entries.map (placeOf? tree)).Nodup) :
    discover tree (entries.map Path.text) = pure entries := by
  have each : (entries.map Path.text).mapM (candidates tree) =
      pure (entries.map fun entry => [entry]) := by
    clear single
    induction entries with
    | nil => rfl
    | cons entry rest ih =>
      obtain ⟨first, others⟩ := List.forall_mem_cons.mp proper
      obtain ⟨here, files⟩ := List.forall_mem_cons.mp isFile
      have reread : Path.ofString entry.text = entry := Path.ofString_text first
      rw [List.map_cons, List.mapM_cons, candidates_of_isFile (reread.symm ▸ here), reread,
        ih others files]
      rfl
  have whole : (entries.map fun entry => [entry]).flatten = entries := by
    simp [← List.flatMap_def]
  rw [discover, each, pure_bind, whole, distinct,
    distinctFrom_eq_self single fun _ _ => List.not_mem_nil]

/-- Where a path of what has the name of a JSON file in a directory is too long, nothing is taken at
all. -/
theorem exists_discover_error (named : Named tree)
    (there : ∀ text ∈ texts, tree.has (.ofString text) = true)
    (beyond : ∃ text ∈ texts, ¬ WithinLimit tree text) :
    ∃ shown, (discover tree texts).Ends (.error (.unreachable (.longName shown))) := by
  obtain ⟨text, given, long⟩ := beyond
  have ends := ends_discover tree texts
  cases expanded : texts.mapM (expand tree) with
  | ok groups =>
    obtain ⟨files, -, found⟩ := exists_result_of_mem (mapM_eq_ok_iff.mp expanded) given
    exact absurd (withinLimit_of_expand named found) long
  | error fault =>
    rw [expanded] at ends
    obtain ⟨other, member, refused⟩ := exists_of_mapM_eq_error expanded
    obtain ⟨shown, rfl⟩ := longName_of_expand (there other member) refused
    exact ⟨shown, ends⟩

/-- Inputs that are there, in a tree in which no path of what they stand for is too long: an entry
leads to each file that they stand for, no two entries lead to one, and nothing else is taken. The
entries are in the order in which they come first. More inputs only add entries at the end, and the
entries taken as inputs give themselves. -/
theorem discover_lists (named : Named tree)
    (there : ∀ text ∈ texts, tree.has (.ofString text) = true)
    (within : ∀ text ∈ texts, WithinLimit tree text) :
    ∃ found, (discover tree texts).Ends (.ok found) ∧ Lists tree texts found ∧
      (∀ more longer log after,
        (discover tree (texts ++ more)).run.run log = (.ok longer, after) → found <+: longer) ∧
      discover tree (found.map Path.text) = pure found := by
  -- what each input stands for, one after the other
  obtain ⟨groups, both⟩ := exists_forall₂_iff.mpr fun text given =>
    exists_standsFor named (there text given) (within text given)
  have expanded : texts.mapM (expand tree) = .ok groups :=
    mapM_eq_ok_iff.mpr (both.imp fun _ _ each => each.1)
  have lists := lists_distinct named within (both.imp fun _ _ each => each.2)
  refine ⟨distinct tree groups.flatten, ?_, lists, ?_, ?_⟩
  · have ends := ends_discover tree texts
    rwa [expanded] at ends
  · intro more longer log after ran
    obtain ⟨_, ends⟩ := ends_discover tree (texts ++ more) log
    rw [ran, List.mapM_append, expanded] at ends
    -- what the inputs stand for is the first part of what all together stand for
    obtain ⟨whole, joined, taken⟩ := bind_eq_ok_iff.mp (Prod.mk.inj ends).1.symm
    obtain ⟨_, same, joined⟩ := bind_eq_ok_iff.mp joined
    cases same
    obtain ⟨others, -, split⟩ := bind_eq_ok_iff.mp joined
    cases split
    cases taken
    rw [List.flatten_append]
    exact distinctFrom_prefix tree [] groups.flatten others.flatten
  -- each entry is a file, spelt so that its text names it again
  · refine discover_texts (fun entry member => ?_) (fun entry member => ?_) lists.single
    · obtain ⟨text, -, place, gives, -⟩ := lists.only entry member
      exact gives.isProper named
    · obtain ⟨text, -, place, gives, leads⟩ := lists.only entry member
      obtain ⟨content, file⟩ := gives.at?
      exact FileTree.isFile_iff.mpr ⟨place, content, toOption_eq_some_iff.mp leads, file⟩

end Inputs

/-! ### Spellings of one file -/

namespace Inputs

section Spellings

/-- A working directory below another directory. -/
abbrev innerDirectory : WorkingDirectory := .ofPath (.ofString "/w/x")

attribute [local instance] innerDirectory

/-- A file in the working directory. -/
def innerTree : FileTree := .ofFiles [(.ofString "a.json", "[]")] []

/-- A file in the working directory can be named from there, from the root, by a way up and down
again, or by its directory. Of all spellings the first one is taken. -/
theorem discover_lists_sample :
    let texts := ["./a.json", "../x/a.json", "/w/x/a.json", "."]
    Named innerTree ∧ (∀ text ∈ texts, innerTree.has (.ofString text) = true) ∧
      (∀ text ∈ texts, WithinLimit innerTree text) ∧
      ∃ found, found = [.ofString "a.json"] ∧ (discover innerTree texts).Ends (.ok found) ∧
        Lists innerTree texts found ∧
        (∀ more longer log after,
          (discover innerTree (texts ++ more)).run.run log = (.ok longer, after) →
            found <+: longer) ∧
        discover innerTree (found.map Path.text) = pure found := by
  intro texts
  have named : Named innerTree :=
    named_ofFiles (List.forall_mem_singleton.mpr (Path.isProper_ofString "a.json"))
      fun _ member => nomatch member
  have there : ∀ text ∈ texts, innerTree.has (.ofString text) = true := by decide +kernel
  have file : ∀ text ∈ ["./a.json", "../x/a.json", "/w/x/a.json"],
      innerTree.locate (.ofString text) = .ok ["w", "x", "a.json"] := by decide +kernel
  have directory : innerTree.locate (.ofString ".") = .ok ["w", "x"] := by decide +kernel
  have only : innerTree.childrenOf ["w", "x"] = ["a.json"] := by decide +kernel
  have within : ∀ text ∈ texts, WithinLimit innerTree text := by
    intro text given place led found name inside json
    have parts : text ∈ ["./a.json", "../x/a.json", "/w/x/a.json"] ++ ["."] := given
    rcases List.mem_append.mp parts with spelt | last
    · cases (file text spelt).symm.trans led
      exact absurd found (by decide +kernel)
    · obtain rfl := List.mem_singleton.mp last
      cases directory.symm.trans led
      obtain rfl := List.mem_singleton.mp (only ▸ inside)
      decide
  obtain ⟨found, ends, rest⟩ := discover_lists named there within
  have evaluated : ((discover innerTree texts).run.run []).1 = .ok [.ofString "a.json"] := by
    decide +kernel
  obtain ⟨after, ran⟩ := ends []
  rw [ran] at evaluated
  exact ⟨named, there, within, found, Except.ok.inj evaluated, ends, rest⟩

end Spellings

/-! ### A file that is not reached -/

/-- A directory with one file in it. -/
def nestedTree : FileTree := ⟨[(["a"], .directory), (["a", "x.json"], .file "[]")]⟩

theorem named_nestedTree : Named nestedTree := by
  have plain : isJsonName "a" = false := by decide
  have name : IsFileName "x.json" := ⟨by decide, by decide, by decide, by decide⟩
  simp [Named, nestedTree, plain, name]

/-- A path into a directory, and a number of times back out of it and into it again. -/
def roundabout : Nat → Path
  | 0 => .ofString "a"
  | count + 1 => ((roundabout count).child "..").child "a"

theorem parts_roundabout_ne (count : Nat) : (roundabout count).parts ≠ [] := by
  cases count with
  | zero => decide
  | succ count => simp [roundabout, Path.child]

/-- Each time takes five characters more. -/
theorem text_roundabout (count : Nat) :
    (roundabout (count + 1)).text = (roundabout count).text ++ "/../a" := by
  have inner : ((roundabout count).child "..").parts ≠ [] := by simp [Path.child]
  rw [roundabout, Path.text_child inner, Path.text_child (parts_roundabout_ne count),
    String.append_assoc]
  rfl

theorem size_roundabout (count : Nat) :
    (roundabout count).text.utf8ByteSize = 5 * count + 1 := by
  induction count with
  | zero => decide
  | succ count ih =>
    rw [text_roundabout, String.utf8ByteSize_append, ih]
    have more : "/../a".utf8ByteSize = 5 := by decide
    omega

theorem isSound_roundabout {count : Nat} (few : count ≤ 818) : (roundabout count).IsSound := by
  refine ⟨?_, ?_⟩
  · clear few
    induction count with
    | zero => decide
    | succ count ih =>
      rw [text_roundabout, String.toList_append, List.mem_append, not_or]
      exact ⟨ih, by decide⟩
  · rw [size_roundabout]
    unfold pathLimit
    omega

theorem isProper_roundabout (count : Nat) : (roundabout count).IsProper := by
  induction count with
  | zero => exact Path.isProper_ofString "a"
  | succ count ih =>
    rw [roundabout, Path.child_child_eq]
    refine Path.isProper_beneath ih fun part member => ?_
    rcases List.mem_pair.mp member with rfl | rfl
    · exact ⟨by decide, by decide, by decide⟩
    · exact ⟨by decide, by decide, by decide⟩

attribute [local instance] WorkingDirectory.root

theorem place_roundabout (count : Nat) : (roundabout count).place = ["a"] := by
  induction count with
  | zero => decide
  | succ count ih =>
    rw [roundabout, Path.place_child, Path.place_child, ih]
    decide

theorem isDirectory_roundabout {count : Nat} (few : count ≤ 818) :
    nestedTree.isDirectory (roundabout count) = true := by
  induction count with
  | zero => decide
  | succ count ih =>
    have sound := isSound_roundabout few
    rw [roundabout] at sound
    have out : nestedTree.isDirectory ((roundabout count).child "..") = true := by
      refine FileTree.isDirectory_iff.mpr
        ⟨FileTree.locate_child (ih (by omega)) sound.of_child (by decide), ?_⟩
      rw [Path.place_child, place_roundabout]
      decide
    refine FileTree.isDirectory_iff.mpr ⟨FileTree.locate_child out sound (by decide), ?_⟩
    rw [place_roundabout]
    decide

/-- A directory is given by a path just within the limit, and that of the file in it is beyond. So
what is given is there and stands for the file, but nothing is taken. -/
theorem discover_roundabout :
    Named nestedTree ∧ nestedTree.isDirectory (.ofString (roundabout 818).text) = true ∧
      Gives nestedTree (roundabout 818).text ((roundabout 818).child "x.json") ["a", "x.json"] ∧
      ∃ shown, (discover nestedTree [(roundabout 818).text]).Ends
        (.error (.unreachable (.longName shown))) := by
  have reread := Path.ofString_text (isProper_roundabout 818)
  have directory := isDirectory_roundabout (Nat.le_refl 818)
  obtain ⟨led, there⟩ := FileTree.isDirectory_iff.mp directory
  rw [place_roundabout] at led there
  -- the file has seven bytes more than its directory, and these are past the limit
  have long : ¬ WithinLimit nestedTree (roundabout 818).text := by
    intro within
    rw [WithinLimit, reread] at within
    have short := within ["a"] led there "x.json" (by decide) (by decide)
    rw [Path.text_child (parts_roundabout_ne 818), String.utf8ByteSize_append,
      size_roundabout] at short
    have more : ("/" ++ "x.json").utf8ByteSize = 7 := by decide
    unfold pathLimit at short
    omega
  have has : nestedTree.has (.ofString (roundabout 818).text) = true :=
    FileTree.has_iff.mpr ⟨_, _, reread.symm ▸ led, there⟩
  have gives := Gives.member (reread.symm ▸ led) there (by decide : isJsonName "x.json" = true)
    (by decide : nestedTree.at? (Place.below ["a"] "x.json") = some (.file "[]"))
  rw [reread] at gives ⊢
  exact ⟨named_nestedTree, directory, gives, exists_discover_error named_nestedTree
    (List.forall_mem_singleton.mpr has) ⟨_, List.mem_singleton_self _, long⟩⟩

end Inputs

end HostBindings
