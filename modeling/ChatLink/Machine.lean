namespace ChatLink

/-- How many lists and tables may stand in one another for the innermost value to be written down, how
many missing folders can be made at once, and where the user's home is if no variable says so. -/
class Machine where
  levels : Nat
  missing : Nat
  home : String

end ChatLink
