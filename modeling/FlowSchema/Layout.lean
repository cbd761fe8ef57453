namespace FlowSchema.Layout

/-- What is put on a page: a line at the margin, a line one step further in, text as it stands, or
an empty line. -/
inductive Piece
  | line (text : String)
  | inner (text : String)
  | text (text : String)
  | blank
deriving DecidableEq

def margin (depth : Nat) : String := String.join (List.replicate depth "  ")

def Piece.render (depth : Nat) : Piece → String
  | .line s => margin depth ++ s ++ "\n"
  | .inner s => margin depth ++ "  " ++ s ++ "\n"
  | .text s => s
  | .blank => "\n"

def render (depth : Nat) (pieces : List Piece) : String :=
  String.join (pieces.map (Piece.render depth))

@[simp] theorem render_nil (depth : Nat) : render depth [] = "" := rfl

@[simp] theorem render_cons (depth : Nat) (p : Piece) (ps : List Piece) :
    render depth (p :: ps) = p.render depth ++ render depth ps := by
  simp [render]

@[simp] theorem render_append (depth : Nat) (ps qs : List Piece) :
    render depth (ps ++ qs) = render depth ps ++ render depth qs := by
  simp [render]

end FlowSchema.Layout
