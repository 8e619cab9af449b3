/-!
# Type names

The names of the types that the standard decoder knows.
-/

namespace GraphClient.GraphSON.Tag

def list : String := "g:List"
def set : String := "g:Set"
def map : String := "g:Map"
def int32 : String := "g:Int32"
def int64 : String := "g:Int64"
def double : String := "g:Double"
def float : String := "g:Float"
def uuid : String := "g:UUID"
def date : String := "g:Date"
def timestamp : String := "g:Timestamp"
def vertex : String := "g:Vertex"
def vertexProperty : String := "g:VertexProperty"
def edge : String := "g:Edge"
def property : String := "g:Property"
def path : String := "g:Path"
def token : String := "g:T"
def direction : String := "g:Direction"
def bulkSet : String := "g:BulkSet"
def traverser : String := "g:Traverser"

end GraphClient.GraphSON.Tag
