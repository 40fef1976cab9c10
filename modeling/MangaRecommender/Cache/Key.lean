import MangaRecommender.Text.Integer
import MangaRecommender.Uuid

/-!
# Keys of cached recommendations

The recommendations for a collection are kept under a text that names their user and the
collection.
-/

namespace MangaRecommender

structure CacheKey where
  user : Uuid
  collection : Int32
  deriving DecidableEq

namespace CacheKey

def text (key : CacheKey) : String :=
  String.ofList ("recommendations:".toList ++ key.user.text ++
    ':' :: Text.signedDecimal key.collection.toInt)

end CacheKey

end MangaRecommender
