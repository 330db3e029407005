import HostBindings.Proofs.Layout.Files

/-!
# Comments that are single lines

The description of an entity becomes comments line by line. Its platforms, the metadata of a package
and the name of a document are written as they are, so they have to be single lines for the comments
to be.

## Main definitions

* `Api.isSingle`, `Api.Info.isSingle` — texts, and the texts of an entity, without line feeds

## Main results

* `Generator.isNote_docLines` — the comments of an entity
* `Generator.noticeLines_single` — the notice of a file
-/

namespace HostBindings

namespace Api

/-- Whether a text has no line feed. -/
def isSingle (text : String) : Bool := text.toList.all (· != '\n')

/-- Whether the platforms and the package metadata of an entity have no line feeds. -/
def Info.isSingle (info : Info) : Bool :=
  info.platforms.all Api.isSingle && Api.isSingle info.version && Api.isSingle info.repoUrl &&
    Api.isSingle info.websiteUrl

theorem isSingle_iff {text : String} : isSingle text = true ↔ '\n' ∉ text.toList := by
  simp only [isSingle, List.all_eq_true, bne_iff_ne]
  exact ⟨fun other member => other _ member rfl, fun absent c member same => absent (same ▸ member)⟩

end Api

open Api (Info)
open Layout

namespace Generator

open Text (trimRight)

theorem isNote_commentLines (text : String) : ∀ line ∈ Text.commentLines text, IsNote line := by
  intro line member
  obtain ⟨raw, rawMember, rfl⟩ := List.mem_map.mp member
  have single := Text.not_mem_of_mem_lines rawMember
  rw [IsNote, String.toList_ofList, Text.commentLine]
  split
  · exact ⟨by decide, by decide⟩
  · refine ⟨rfl, fun feed => ?_⟩
    rcases List.mem_append.mp feed with lead | rest
    · exact absurd lead (by decide)
    · rcases List.mem_cons.mp rest with gap | text
      · exact absurd gap (by decide)
      · exact single ((Text.trimRight_sublist raw).subset text)

/-- The comments of an entity are single lines. -/
theorem isNote_docLines (generator : Generator) {info : Info} (single : info.isSingle = true) :
    ∀ line ∈ generator.docLines info, IsNote line := by
  simp only [Info.isSingle, Bool.and_eq_true, List.all_eq_true] at single
  intro line member
  unfold docLines at member
  split at member
  · rcases List.mem_append.mp member with description | platforms
    · split at description
      · cases description
      · exact isNote_commentLines _ line description
    · split at platforms
      · cases platforms
      · rw [List.mem_singleton.mp platforms]
        -- only the names of the platforms and the commas between them could have a line feed
        have split : "// Platforms: " ++ ", ".intercalate info.platforms =
            "// " ++ ("Platforms: " ++ ", ".intercalate info.platforms) := by
          rw [← String.append_assoc]
          rfl
        rw [split]
        refine isNote_of_single fun feed => ?_
        rw [String.toList_append, List.mem_append] at feed
        rcases feed with lead | feed
        · exact absurd lead (by decide)
        · rw [String.toList_intercalate] at feed
          rcases Text.mem_of_mem_intercalate feed with gap | ⟨part, partMember, feed⟩
          · exact absurd gap (by decide)
          · obtain ⟨platform, there, rfl⟩ := List.mem_map.mp partMember
            exact Api.isSingle_iff.mp (single.1.1.1 platform there) feed
  · cases member

/-- The lines of a notice have no line feeds. -/
theorem noticeLines_single (generator : Generator) {source : Json} {metadata : Option Info}
    (single : Api.isSingle source.text = true) (known : ∀ info ∈ metadata, info.isSingle = true) :
    ∀ line ∈ generator.noticeLines source metadata, '\n' ∉ line.toList := by
  have origin : '\n' ∉ (if source.truthy then s!" from {source.text}" else "").toList := by
    split
    · change '\n' ∉ (" from " ++ source.text).toList
      simpa using Api.isSingle_iff.mp single
    · exact List.not_mem_nil
  intro line member
  unfold noticeLines at member
  rcases List.mem_cons.mp member with rfl | detail
  · generalize (if source.truthy then s!" from {source.text}" else "") = text at origin
    change '\n' ∉ ("Code generated by api-bindgen" ++ text ++ ". DO NOT EDIT.").toList
    simpa using origin
  · -- version, repository and website are shown in the same way, if there are any
    have labelled {label text : String} (lead : '\n' ∉ label.toList)
        (single : Api.isSingle text = true)
        (there : line ∈ if text = "" then [] else [label ++ text]) : '\n' ∉ line.toList := by
      split at there
      · cases there
      · rw [List.mem_singleton.mp there]
        simpa [lead] using Api.isSingle_iff.mp single
    split at detail
    next _ info =>
      have texts := known info rfl
      simp only [Info.isSingle, Bool.and_eq_true] at texts
      split at detail
      · rcases List.mem_append.mp detail with early | website
        · rcases List.mem_append.mp early with version | repository
          · exact labelled (by decide) texts.1.1.2 version
          · exact labelled (by decide) texts.1.2 repository
        · exact labelled (by decide) texts.2 website
      · cases detail
    · cases detail

end Generator

end HostBindings
