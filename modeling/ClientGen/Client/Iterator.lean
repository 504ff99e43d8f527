import ClientGen.Client.Call
import ClientGen.Code

namespace ClientGen.Element

open Code

variable (element : Element)

def iteratorStruct : Code :=
  seq [
    line s!"// {element.iterator} manages a stream of {element.goType}.",
    block s!"type {element.iterator} struct " [
      line s!"items    []{element.goType}",
      line "pageInfo *iterator.PageInfo",
      line "nextFunc func() error",
      blank,
      line "// InternalFetch is for use by the Google Cloud Libraries only.",
      line "// It is not part of the stable interface of this package.",
      line "//",
      line "// InternalFetch returns results from a single call to the underlying RPC.",
      line "// The number of results is no greater than pageSize.",
      line "// If there are no more results, nextPageToken is empty and err is nil.",
      line s!"InternalFetch func(pageSize int, pageToken string) (results []{element.goType}, nextPageToken string, err error)"],
    blank]

def pageInfo : Code :=
  seq [
    line "// PageInfo supports pagination. See the google.golang.org/api/iterator package for details.",
    block s!"func (it *{element.iterator}) PageInfo() *iterator.PageInfo "
      [line "return it.pageInfo"],
    blank]

def next : Code :=
  seq [
    line "// Next returns the next result. Its second return value is iterator.Done if there are no more",
    line "// results. Once Next returns Done, all subsequent calls will return Done.",
    block s!"func (it *{element.iterator}) Next() ({element.goType}, error) " [
      line s!"var item {element.goType}",
      block "if err := it.nextFunc(); err != nil " [line "return item, err"],
      line "item = it.items[0]",
      line "it.items = it.items[1:]",
      line "return item, nil"],
    blank]

def bufLen : Code :=
  seq [
    block s!"func (it *{element.iterator}) bufLen() int " [line "return len(it.items)"],
    blank]

def takeBuf : Code :=
  seq [
    block s!"func (it *{element.iterator}) takeBuf() interface\x7b\x7d " [
      line "b := it.items",
      line "it.items = nil",
      line "return b"],
    blank]

def declaration : Code :=
  seq [element.iteratorStruct, element.pageInfo, element.next, element.bufLen, element.takeBuf]

end ClientGen.Element
