import PocketCalculator.Fault

set_option autoImplicit false

namespace PocketCalculator

inductive Level where
  | debug
  | error
deriving DecidableEq

inductive Event where
  | pointRejected (typed held : Text)
  | expressionChanged (shown : Text)
  | expressionInconsistent (shown : Text) (fault : Fault)
  | reductionFailed (fault : Fault)
  | reduced (result : Text)

namespace Event

def level : Event → Level
  | .expressionInconsistent _ _ => .error
  | _ => .debug

def message : Event → Text
  | .pointRejected typed held =>
      "Rejected second decimal point ".toList ++ Quoted.quoted typed ++
        " after ".toList ++ Quoted.quoted held
  | .expressionChanged shown => "Expression is now ".toList ++ Quoted.quoted shown
  | .expressionInconsistent shown fault =>
      "Inconsistent expression ".toList ++ Quoted.quoted shown ++ [':', ' '] ++ fault.written
  | .reductionFailed fault => "Reduction failed: ".toList ++ fault.written
  | .reduced result => "Reduced to ".toList ++ Quoted.quoted result

end Event

end PocketCalculator
