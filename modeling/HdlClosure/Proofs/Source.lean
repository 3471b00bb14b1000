import HdlClosure.Language
import HdlClosure.Proofs.Path.Spelling
import HdlClosure.Source

namespace HdlClosure

/-- The module that a source is named for: the name without the dot and the extension, in lowercase.
A name that is nothing but these is taken whole. -/
inductive NamedFor (extension : String) : String → String → Prop where
  | stem {stem : String} (given : stem ≠ "") :
    NamedFor extension (stem ++ "." ++ extension) (Text.lowercase stem)
  | whole : NamedFor extension ("." ++ extension) ("." ++ extension)

theorem dot_not_mem_extension (language : Language) : '.' ∉ language.extension.toList := by
  cases language <;> decide

theorem slash_not_mem_extension (language : Language) : '/' ∉ language.extension.toList := by
  cases language <;> decide

theorem lowercase_extension (language : Language) :
    Text.lowercase ("." ++ language.extension) = "." ++ language.extension := by
  cases language <;> decide +kernel

namespace SourceFile

theorem ofPath?_join {name : String} (entryName : Path.EntryName name) (directory : String) :
    ofPath? (Path.join directory name) =
      some { path := Path.join directory name,
             moduleName := Text.lowercase (String.ofList (Path.stemOf name.toList)) } := by
  rw [ofPath?, Path.stem?, Path.fileName?_join entryName.plain entryName.componentOf?_eq]
  rfl

/-- A source is named for the text in front of the extension. -/
theorem ofPath?_join_stem {stem : String} (given : stem ≠ "") (language : Language)
    (entryName : Path.EntryName (stem ++ "." ++ language.extension)) (directory : String) :
    ofPath? (Path.join directory (stem ++ "." ++ language.extension)) =
      some { path := Path.join directory (stem ++ "." ++ language.extension),
             moduleName := Text.lowercase stem } := by
  have visible : stem.toList ≠ [] := by simpa using given
  have split : (stem ++ "." ++ language.extension).toList =
      stem.toList ++ '.' :: language.extension.toList := by
    simp
  rw [ofPath?_join entryName, split, Path.stemOf_append visible (dot_not_mem_extension language),
    String.ofList_toList]

/-- A name that is nothing but the extension is taken whole. -/
theorem ofPath?_join_extension (language : Language)
    (entryName : Path.EntryName ("." ++ language.extension)) (directory : String) :
    ofPath? (Path.join directory ("." ++ language.extension)) =
      some { path := Path.join directory ("." ++ language.extension),
             moduleName := "." ++ language.extension } := by
  have hidden : ("." ++ language.extension).toList = '.' :: language.extension.toList := by
    simp
  rw [ofPath?_join entryName, hidden, Path.stemOf_hidden (dot_not_mem_extension language), ← hidden,
    String.ofList_toList, lowercase_extension]

theorem exists_ofPath? {stem : String} (language : Language)
    (entryName : Path.EntryName (stem ++ "." ++ language.extension)) (directory : String) :
    ∃ moduleName, ofPath? (Path.join directory (stem ++ "." ++ language.extension)) =
        some { path := Path.join directory (stem ++ "." ++ language.extension),
               moduleName := moduleName } ∧
      NamedFor language.extension (stem ++ "." ++ language.extension) moduleName := by
  by_cases given : stem = ""
  · subst given
    rw [String.empty_append] at entryName ⊢
    exact ⟨_, ofPath?_join_extension language entryName directory, .whole⟩
  · exact ⟨_, ofPath?_join_stem given language entryName directory, .stem given⟩

end SourceFile

end HdlClosure
