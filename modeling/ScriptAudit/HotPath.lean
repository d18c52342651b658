import ScriptAudit.Text.Ascii

namespace ScriptAudit

def hotPathMethods : List String :=
  ["Update", "LateUpdate", "FixedUpdate", "OnGUI", "OnRenderObject", "OnDrawGizmos", "OnTriggerStay",
    "OnCollisionStay", "OnTriggerStay2D", "OnCollisionStay2D"]

def isHotPath (method : String) : Bool := hotPathMethods.any (Text.sameIgnoringCase · method)

end ScriptAudit
