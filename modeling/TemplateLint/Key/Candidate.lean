import TemplateLint.Key.Delimiter

/-!
# Candidate keys of a line

Two places in a template line name keys of the form data: the single-quoted arguments of a
`form.data.dig(…)` call, and subscripts `['…']` of any receiver. The candidates of a line are the
keys of its calls followed by its subscripts, each in order of appearance; a key that occurs twice
is listed twice.
-/

namespace TemplateLint.Key

/-- A call that digs into the form data; its argument text ends at the first closing parenthesis. -/
def digCall : Delimiter where
  opening := "form.data.dig(".toList
  barrier := ')'
  closing := [')']

/-- A text between single quotes. -/
def quoted : Delimiter where
  opening := ['\'']
  barrier := '\''
  closing := ['\'']

/-- A subscript whose index is a text between single quotes. -/
def subscript : Delimiter where
  opening := ['[', '\'']
  barrier := '\''
  closing := ['\'', ']']

/-- The quoted arguments of the calls in a line, with their places in the line. -/
def digSpans (line : Text) : List Span :=
  (digCall.spans line).flatMap fun call => quoted.spansFrom call.start call.text

/-- The quoted subscripts in a line, with their places. -/
def subscriptSpans (line : Text) : List Span := subscript.spans line

/-- The keys that the calls in a line dig for. -/
def digKeys (line : Text) : List Text := (digSpans line).map Span.text

/-- The keys that a line subscripts with. -/
def subscriptKeys (line : Text) : List Text := (subscriptSpans line).map Span.text

/-- Every key that a line names: those of its calls, then those of its subscripts. -/
def candidates (line : Text) : List Text := digKeys line ++ subscriptKeys line

end TemplateLint.Key
