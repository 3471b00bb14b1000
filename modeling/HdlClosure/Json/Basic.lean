namespace HdlClosure

inductive Json where
  | text (value : String)
  | number (value : Nat)
  | list (items : List Json)
  | fields (members : List (String × Json))
  deriving Inhabited

end HdlClosure
