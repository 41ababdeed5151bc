namespace WorkflowSearch.Text

def padded (width n : Nat) : String :=
  let digits := toString n
  .ofList (List.replicate (width - digits.length) '0') ++ digits

def numbered (stem : String) (n : Nat) : String :=
  stem ++ padded 4 n

end WorkflowSearch.Text
